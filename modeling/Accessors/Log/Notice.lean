import Accessors.Error
import Accessors.Text.LineEnding
import Accessors.Text.Visible

/-!
# Notices

Every step reports what it did by notices. A `Notice` says what happened; `Notice.level` is how
important that is, `Notice.target` is the part of the program it comes from, and `Notice.text` words
it. Lines are counted from one in words, and the last line that an editor can have is beyond the
numbers for that (`Notice.hasText`): a program that is asked to word it stops.
-/

namespace Accessors.Log

/-- How important a notice is. -/
inductive Level
  /-- The program cannot go on. -/
  | error
  /-- Something was left undone. -/
  | warn
  /-- Something was done. -/
  | info
  /-- A detail of what is being done. -/
  | debug
deriving DecidableEq, Repr, Inhabited

/-- The rank of a level: the lower, the more important. -/
def Level.rank : Level → Nat
  | error => 1
  | warn => 2
  | info => 3
  | debug => 4

def Level.name : Level → String
  | error => "ERROR"
  | warn => "WARN"
  | info => "INFO"
  | debug => "DEBUG"

/-- Something that happened. -/
inductive Notice
  /-- No line of the document holds the header of the interface. -/
  | noDeclaration (interface : String) (lines : Nat)
  /-- The header of the interface is on this line, counted from one. -/
  | found (interface : String) (line : Nat)
  /-- The editor has no document with a declaration to look for. -/
  | noDocument
  /-- The editor has no cursor. -/
  | noCursor
  /-- The interface has no properties. -/
  | noProperties (interface : String)
  /-- Fragments are about to be put in at a line, counted from zero. -/
  | inserting (fragments : Nat) (line : UInt32)
  /-- Accessors have been put in. -/
  | generated (properties : Nat) (interface : String)
  /-- A command has been given a second handler. -/
  | registeredTwice (command : String)
  /-- A command is about to run. -/
  | executing (command : String)
  /-- A file has been read. -/
  | opened (path : String) (bytes : Nat) (ending : Text.LineEnding)
  /-- A file has been written and is longer by this many bytes. -/
  | wrote (bytes : Nat) (target : String)
  /-- Settings are about to be read from a file. -/
  | loading (path : String)
  /-- Neither affix has a character. -/
  | bareNames
  /-- The properties have been counted for output. -/
  | counted (properties : Nat) (interface : String)
  /-- The document has no properties to insert accessors for. -/
  | nothingInserted (declaration path : String)
  /-- There is no document to insert accessors into. -/
  | nothingToEdit
  /-- The program ends with an error. -/
  | failed (error : Error)
  /-- What to do about the error that the program ends with. -/
  | advice (error : Error)
deriving DecidableEq, Repr

namespace Notice

def level : Notice → Level
  | failed _ | advice _ => .error
  | registeredTwice _ | nothingInserted _ _ | nothingToEdit => .warn
  | generated _ _ | counted _ _ => .info
  | _ => .debug

/-- The part of the program that a notice comes from, under the name by which it can be filtered. -/
def target : Notice → String
  | noDeclaration _ _ | found _ _ => "accessor_gen::core::extractor"
  | noDocument | noCursor | noProperties _ | inserting _ _ | generated _ _ =>
    "accessor_gen::core::generator"
  | registeredTwice _ | executing _ => "accessor_gen::app::commands"
  | opened _ _ _ | wrote _ _ => "accessor_gen::adapters::file"
  | loading _ => "accessor_gen::config::cli"
  | bareNames => "accessor_gen::config::toml_config"
  | counted _ _ | nothingInserted _ _ | nothingToEdit | failed _ | advice _ => "accessor_gen"

/-- Whether a notice can be put into words: the number of a line has to be one of 32 bits. -/
def hasText : Notice → Bool
  | inserting _ line => line.toNat + 1 < UInt32.size
  | _ => true

def text : Notice → String
  | noDeclaration name lines =>
    "No declaration of " ++ name ++ " found in " ++ toString lines ++ " lines"
  | found name line => "Found " ++ name ++ " on line " ++ toString line
  | noDocument => "No active document, nothing to do"
  | noCursor => "No cursor in the active document, nothing to do"
  | noProperties name => "No properties found for " ++ name
  | inserting count line =>
    "Inserting " ++ toString count ++ " fragments at line " ++ toString (line.toNat + 1)
  | generated count name =>
    "Generated accessors for " ++ toString count ++ " properties of " ++ name
  | registeredTwice command =>
    "Command " ++ command ++ " was registered twice, keeping the latest"
  | executing command => "Executing command " ++ command
  | opened path bytes ending =>
    "Opened " ++ path ++ " (" ++ toString bytes ++ " bytes, " ++ ending.quoted ++ " line endings)"
  | wrote bytes target => "Wrote " ++ toString bytes ++ " bytes to " ++ target
  | loading path => "Loading configuration from " ++ path
  | bareNames => "Empty prefix and suffix, the interface shares the file's name"
  | counted count name => "Found " ++ toString count ++ " properties in " ++ name
  | nothingInserted declaration path =>
    "No interface declaration for " ++ declaration ++ " in " ++ path ++ ", nothing inserted"
  | nothingToEdit => "No document to edit, nothing inserted"
  | failed error => "❌ " ++ error.message
  | advice error => "💡 Suggestion: " ++ error.suggestion

/-- The wording of a notice as it is shown on a terminal, which it cannot control. -/
def plainText (notice : Notice) : String :=
  Text.visible notice.text

end Notice

end Accessors.Log
