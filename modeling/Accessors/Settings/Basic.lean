import Accessors.Plan

/-!
# Settings

The settings of the program, and the rules that they and other inputs have to meet. The checks come
in a fixed order, and the first one that fails gives the error.
-/

namespace Accessors

/-- What can be set. -/
structure Settings where
  naming : Declaration.Naming := {}
  /-- Whether lines of white space only are passed over. -/
  skipBlank : Bool := false
  /-- How many spaces accessors are indented by. -/
  indent : Nat := 2
deriving DecidableEq, Repr, Inhabited

/-! ## Checks -/

namespace Check

/-- A path is not empty and holds no null character. -/
def path (field path : String) : Except Error Unit :=
  if path.isEmpty then
    .error (.value field path .emptyPath)
  else if path.toList.contains '\x00' then
    .error (.value field path .nullInPath)
  else
    .ok ()

/-- A number is not below the least one allowed. -/
def atLeast (field : String) (least number : Nat) : Except Error Unit :=
  if number < least then
    .error (.value field (toString number) (.tooSmall least))
  else
    .ok ()

/-- Whether a character may be part of an affix. -/
def isAffixChar (c : Char) : Bool :=
  Unicode.isAlphanumeric c || c == '_'

/-- An affix consists of letters, numbers and underscores. It may be empty. -/
def affix (field text : String) : Except Error Unit :=
  match text.toList.find? (!isAffixChar ·) with
  | some c => .error (.value field text (.badCharacter c))
  | none => .ok ()

/-- A number lies in a range. -/
def range (field : String) (least most number : Int) : Except Error Unit :=
  if number < least ∨ most < number then
    .error (.value field (toString number) (.outOfRange least most))
  else
    .ok ()

end Check

namespace Settings

/-- The most spaces that accessors may be indented by. -/
def maxIndent : Nat := 8

/-- Settings have proper affixes and an indent that is not too wide. -/
def check (settings : Settings) : Except Error Unit := do
  Check.affix "declaration.prefix" settings.naming.lead
  Check.affix "declaration.suffix" settings.naming.tail
  Check.range "render.indent" 0 maxIndent settings.indent

/-- What accepted settings report. -/
def checkNotices (settings : Settings) : List Log.Notice :=
  if settings.naming.lead.isEmpty && settings.naming.tail.isEmpty then [.bareNames] else []

/-- The plan that works by these settings and may look for a given declaration. -/
def plan (settings : Settings) (declaration : Option String := none) : Plan where
  query := { naming := settings.naming, skipBlank := settings.skipBlank }
  layout := { indent := settings.indent }
  declaration

end Settings

end Accessors
