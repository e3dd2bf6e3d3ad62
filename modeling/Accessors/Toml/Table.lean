import Accessors.Toml.Value

/-!
# Building tables

The tables of a document grow statement by statement. A key may be given once, and a table may be
extended only in the way it was begun: by headers, or by dotted keys under the header it stands
under. Every function here answers `none` when a statement does not fit what is there already.
-/

namespace Accessors.Toml

/-- A key: the names of the tables on the way, and the name in the last of them. -/
structure Key where
  /-- The names of the tables on the way. -/
  parents : List String
  last : String
deriving DecidableEq, Repr, Inhabited

namespace Key

/-- The key with one more table on the way to it. -/
def below (key : Key) (name : String) : Key :=
  { key with parents := name :: key.parents }

def names (key : Key) : List String :=
  key.parents ++ [key.last]

end Key

/-- How the tables on the way to a place are entered. -/
inductive Passage
  /-- On the way to the table of a header, which makes the tables that are missing. -/
  | header
  /-- On the way to the last part of a dotted key, which makes the tables that are missing. -/
  | dotted
  /-- Back to the table of the last header. -/
  | back
deriving DecidableEq, Repr, Inhabited

namespace Passage

/-- How the tables that are made on the way count as written. -/
def origin : Passage → Origin
  | header | back => .implied
  | dotted => .dotted

/-- Whether a table may be entered. -/
def admits : Passage → Origin → Bool
  | back, _ => true
  | header, origin => origin != .inline
  | dotted, origin => origin == .implied || origin == .dotted

end Passage

namespace Entries

/-- The entries with another value for a key that is there. -/
def replace (entries : Entries) (name : String) (value : Value) : Entries :=
  entries.map fun entry => if entry.1 = name then (name, value) else entry

/-- Changes the table at the end of a way. The change gets to know how the table came to be; in an
array of tables, the way leads to the last element. -/
def change (passage : Passage) (edit : Origin → Entries → Option Entries) :
    List String → Origin → Entries → Option Entries
  | [], origin, entries => edit origin entries
  | name :: names, _, entries =>
    match entries.lookup name with
    | none => do
      let inner ← change passage edit names passage.origin []
      return entries ++ [(name, .table passage.origin inner)]
    | some (.table origin inner) =>
      if passage.admits origin then do
        let inner ← change passage edit names origin inner
        return replace entries name (.table origin inner)
      else
        none
    | some (.tables elements) =>
      match elements.getLast? with
      | none => none
      | some element => do
        let inner ← change passage edit names .header element
        return replace entries name (.tables (elements.dropLast ++ [inner]))
    | some _ => none

/-- Adds an entry under a name that is not taken. A dotted key adds only to tables that dotted keys
made. -/
def add (key : Key) (value : Value) (origin : Origin) (entries : Entries) : Option Entries :=
  if !key.parents.isEmpty && origin != .dotted then none
  else if (entries.lookup key.last).isSome then none
  else some (entries ++ [(key.last, value)])

/-- Gives a key a value in a table. -/
def assign (key : Key) (value : Value) (origin : Origin) (entries : Entries) : Option Entries :=
  change .dotted (add key value) key.parents origin entries

/-- Begins the table of a header. A table that was only on the way to others may be begun. -/
def openTable (name : String) (entries : Entries) : Option Entries :=
  match entries.lookup name with
  | none => some (entries ++ [(name, .table .header [])])
  | some (.table .implied inner) => some (replace entries name (.table .header inner))
  | some _ => none

/-- Begins one more element of an array of tables. -/
def openElement (name : String) (entries : Entries) : Option Entries :=
  match entries.lookup name with
  | none => some (entries ++ [(name, .tables [[]])])
  | some (.tables elements) => some (replace entries name (.tables (elements ++ [[]])))
  | some _ => none

def ofPairs? (pairs : List (Key × Value)) : Option Entries :=
  pairs.foldlM (fun entries (key, value) => assign key value .header entries) []

end Entries

end Accessors.Toml
