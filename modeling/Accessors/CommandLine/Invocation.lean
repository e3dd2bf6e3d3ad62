import Accessors.Settings.Source

/-!
# Invocations

What the program is asked to do: the file, the place of the cursor in it, and the options. Lines and
columns are counted from one here. `Invocation.settings` puts the settings together: an option wins
over the settings file, and the file over the default.
-/

namespace Accessors

/-- What the program is asked to do. -/
structure Invocation where
  file : String
  /-- The line of the cursor, counted from one. -/
  line : UInt32
  /-- The column of the cursor, counted from one. -/
  column : UInt32 := 1
  /-- The declaration to look for in place of the one the file is named for. -/
  declaration : Option String := none
  config : Option String := none
  /-- What to put in front of the names of declarations. -/
  lead : Option String := none
  /-- What to put behind the names of declarations. -/
  tail : Option String := none
  /-- How many spaces to indent by. -/
  indent : Option Nat := none
  /-- Whether to pass over lines of white space only. -/
  skipBlank : Bool := false
  /-- Whether to print the accessors and leave the file alone. -/
  dryRun : Bool := false
  /-- Whether to print the properties and leave the file alone. -/
  list : Bool := false
  verbose : Bool := false
  jsonLogs : Bool := false
deriving DecidableEq, Repr, Inhabited

namespace Invocation

/-- A number counted from one, counted from zero; zero stays zero. -/
def fromZero (number : UInt32) : UInt32 :=
  if number = 0 then 0 else number - 1

def cursor (invocation : Invocation) : Text.Position :=
  ⟨fromZero invocation.line, fromZero invocation.column⟩

/-- An invocation names a file, counts from one, and names no blank declaration. -/
def check (invocation : Invocation) : Except Error Unit := do
  Check.path "file" invocation.file
  Check.atLeast "line" 1 invocation.line.toNat
  Check.atLeast "column" 1 invocation.column.toNat
  match invocation.declaration with
  | some declaration =>
    if Text.isBlankText declaration.toList then
      throw (.settings "--interface needs a declaration name")
  | none => pure ()

/-- The settings with the options in place of what they override. -/
def override (invocation : Invocation) (settings : Settings) : Settings where
  naming :=
    { lead := invocation.lead.getD settings.naming.lead
      tail := invocation.tail.getD settings.naming.tail }
  skipBlank := invocation.skipBlank || settings.skipBlank
  indent := invocation.indent.getD settings.indent

/-- The settings of the settings file, or the defaults if there is none. -/
def fileSettings (invocation : Invocation) (tree : Files.Tree) : Except Error Settings :=
  match invocation.config with
  | some path => Settings.ofFile tree path
  | none => .ok {}

/-- The settings that the program works by. They are checked after the options are in place. -/
def settings (invocation : Invocation) (tree : Files.Tree) : Except Error Settings := do
  let settings := invocation.override (← invocation.fileSettings tree)
  settings.check
  return settings

/-- What putting the settings together reports. -/
def settingsNotices (invocation : Invocation) (tree : Files.Tree) : List Log.Notice :=
  let loading := match invocation.config with
    | some path => [.loading path]
    | none => []
  match invocation.settings tree with
  | .ok settings => loading ++ settings.checkNotices
  | .error _ => loading

end Invocation

end Accessors
