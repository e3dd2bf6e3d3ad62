import Accessors.Files.Fault
import Accessors.Json.Fault

/-!
# Errors

Everything that can go wrong, by cause. An error has three texts: `Error.message` for the log,
`Error.friendly` for the user, and `Error.suggestion`, which says what to do about it.
-/

namespace Accessors

/-- Why a value is refused. -/
inductive ValueFault
  /-- A path without a character. -/
  | emptyPath
  /-- A path with a null character. -/
  | nullInPath
  /-- A number below the least one allowed. -/
  | tooSmall (least : Nat)
  /-- A character that an affix may not hold. -/
  | badCharacter (c : Char)
  /-- A number outside of a range. -/
  | outOfRange (least most : Int)
  /-- Any other reason, in words. -/
  | other (reason : String)
deriving DecidableEq, Repr, Inhabited

def ValueFault.reason : ValueFault → String
  | emptyPath => "Path cannot be empty"
  | nullInPath => "Path contains null bytes"
  | tooSmall least => "Value must be at least " ++ toString least
  | badCharacter c =>
    "Unexpected character '" ++ String.singleton c ++ "', only word characters are allowed"
  | outOfRange least most => "Value must be between " ++ toString least ++ " and " ++ toString most
  | other reason => reason

/-- An error, by cause. -/
inductive Error
  /-- A file could not be read or written. -/
  | file (fault : Files.Fault)
  /-- A JSON text could not be read or written. -/
  | json (fault : Json.Fault)
  /-- A TOML text could not be read as settings. -/
  | toml (detail : String)
  | pattern (detail : String)
  /-- The settings do not fit together. -/
  | settings (detail : String)
  /-- The value of a field is refused. -/
  | value (field given : String) (fault : ValueFault)
  /-- An editor refused an edit. -/
  | editor (detail : String)
  | unknownCommand (command : String)
deriving DecidableEq, Repr, Inhabited

namespace Error

/-- The text of an error in the log. A report on a TOML text ends its line. -/
def message : Error → String
  | file fault => "IO error: " ++ fault.text
  | json fault => "Serialization error: " ++ fault.text
  | toml detail => "TOML parsing error: " ++ detail ++ "\n"
  | pattern detail => "Invalid declaration pattern: " ++ detail
  | settings detail => "Configuration error: " ++ detail
  | value field given fault =>
    "Invalid value for '" ++ field ++ "': '" ++ given ++ "' (" ++ fault.reason ++ ")"
  | editor detail => "Editor rejected the edit: " ++ detail
  | unknownCommand command => "Unknown command: " ++ command

/-- The text of an error for the user. -/
def friendly : Error → String
  | file fault => "Could not read or write the document: " ++ fault.text
  | json fault => "Could not serialize the properties: " ++ fault.text
  | toml detail => "The configuration file is not valid TOML: " ++ detail ++ "\n"
  | pattern _ => "The declaration prefix/suffix produced an invalid search pattern"
  | settings detail => "Configuration problem: " ++ detail
  | value field _ fault => "Setting '" ++ field ++ "' is invalid: " ++ fault.reason
  | editor detail => "The edit could not be applied: " ++ detail
  | unknownCommand command => "No command named '" ++ command ++ "'"

def suggestion : Error → String
  | file _ => "Check that the file exists and is writable"
  | json _ => "Re-run without --list"
  | toml _ => "Fix the configuration file or run without --config"
  | settings _ => "Fix the configuration file or run without --config"
  | pattern _ => "Use word characters only for prefix/suffix and an indent between 0 and 8"
  | value _ _ _ => "Use word characters only for prefix/suffix and an indent between 0 and 8"
  | editor _ => "Make sure the document was not modified concurrently"
  | unknownCommand _ => "Use extension.genGettersSetters"

end Error

end Accessors
