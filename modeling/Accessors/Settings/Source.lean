import Accessors.Files.Access
import Accessors.Settings.Basic
import Accessors.Toml.Document
import Accessors.Toml.Magnitude

/-!
# Settings in TOML

A TOML document holds settings in the sections `declaration`, `extract` and `render`. What it leaves
out keeps its default, and keys with other names are passed over, but no number may be too large or
unreadable. A section may also be an array of its values in order, of which those behind the last
are not looked at, or a date, which leaves everything out.
-/

namespace Accessors.Settings

/-- The values of a section, by place and by name. -/
abbrev Section := Nat → String → Option Toml.Value

/-- The values of a section that is a table, an array or a date. -/
def section? : Toml.Value → Option Section
  | .table _ entries => some fun _ name => entries.lookup name
  | .array items => some fun place _ => items[place]?
  | .tables elements => some fun place _ => elements[place]?.map (.table .header ·)
  | .moment _ => some fun _ _ => none
  | _ => none

/-- The values of the section with a name, which has none if it is left out. -/
def sectionOf (entries : Toml.Entries) (name : String) : Except Toml.Fault Section :=
  match entries.lookup name with
  | none => .ok fun _ _ => none
  | some value =>
    match section? value with
    | some values => .ok values
    | none => .error .mismatched

/-- A value of some type, or a default in place of a value that is left out. -/
def fieldOr {α : Type} (default : α) (convert? : Toml.Value → Option α)
    (value : Option Toml.Value) : Except Toml.Fault α :=
  match value with
  | none => .ok default
  | some value =>
    match convert? value with
    | some a => .ok a
    | none => .error .mismatched

def text? : Toml.Value → Option String
  | .text text => some text
  | _ => none

def boolean? : Toml.Value → Option Bool
  | .boolean value => some value
  | _ => none

/-- A value that is a number of 64 bits. -/
def count? : Toml.Value → Option Nat
  | .integer number =>
    if 0 ≤ number ∧ number.toNat < UInt64.size then some number.toNat else none
  | _ => none

def sectionNames : List String := ["declaration", "extract", "render"]

/-- Whether all numbers in an entry of a document are held. In a section that is an array this does
not matter. -/
def isHeldEntry : String × Toml.Value → Bool
  | (name, .array items) => sectionNames.contains name || Toml.Value.areHeld items
  | (_, value) => value.isHeld

/-- The settings in the entries of a document. -/
def ofEntries (entries : Toml.Entries) : Except Toml.Fault Settings := do
  unless entries.all isHeldEntry do throw .notHeld
  let declaration ← sectionOf entries "declaration"
  let lead ← fieldOr "I" text? (declaration 0 "prefix")
  let tail ← fieldOr "Data" text? (declaration 1 "suffix")
  let extract ← sectionOf entries "extract"
  let skipBlank ← fieldOr false boolean? (extract 0 "skip_blank_lines")
  let render ← sectionOf entries "render"
  let indent ← fieldOr 2 count? (render 0 "indent")
  return { naming := { lead, tail }, skipBlank, indent }

/-- The settings that a TOML text holds. -/
def ofToml (text : String) : Except Error Settings :=
  match Toml.parse text >>= ofEntries with
  | .ok settings => .ok settings
  | .error fault => .error (.toml fault.text)

/-- The settings in the file that a path leads to. -/
def ofFile (tree : Files.Tree) (path : String) : Except Error Settings :=
  match tree.readText? path with
  | .ok text => ofToml text
  | .error fault => .error (.file fault)

end Accessors.Settings
