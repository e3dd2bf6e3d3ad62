/-!
# Faults of the file system

Why a file could not be read or written. Most faults have a number, which their text ends in.
-/

namespace Accessors.Files

/-- The cause of a failed operation on files. -/
inductive Fault
  /-- No entry has this name. -/
  | notFound
  /-- The permissions of a file or a directory do not allow what is asked for. -/
  | denied
  /-- What is asked for is up to someone else, such as the owner of a file. -/
  | notPermitted
  /-- An entry has this name already. -/
  | taken
  /-- A part of a path that has to be a directory is none. -/
  | notDirectory
  /-- A directory stands where a file is asked for. -/
  | isDirectory
  /-- A name is longer than 255 bytes, or a path longer than 4095. -/
  | nameTooLong
  /-- More symbolic links than are followed on one path. -/
  | tooManyLinks
  /-- The bytes of a file are not UTF-8. -/
  | notText
  /-- A path holds a null character. -/
  | nullInPath
  /-- Any other fault, in the words of the system. -/
  | other (text : String)
deriving DecidableEq, Repr, Inhabited

namespace Fault

/-- The number of a fault. -/
def code? : Fault → Option Nat
  | notFound => some 2
  | denied => some 13
  | notPermitted => some 1
  | taken => some 17
  | notDirectory => some 20
  | isDirectory => some 21
  | nameTooLong => some 36
  | tooManyLinks => some 40
  | notText => none
  | nullInPath => none
  | other _ => none

/-- What a fault says, without its number. -/
def reason : Fault → String
  | notFound => "No such file or directory"
  | denied => "Permission denied"
  | notPermitted => "Operation not permitted"
  | taken => "File exists"
  | notDirectory => "Not a directory"
  | isDirectory => "Is a directory"
  | nameTooLong => "File name too long"
  | tooManyLinks => "Too many levels of symbolic links"
  | notText => "stream did not contain valid UTF-8"
  | nullInPath => "file name contained an unexpected NUL byte"
  | other text => text

def text (fault : Fault) : String :=
  match fault.code? with
  | some code => fault.reason ++ " (os error " ++ toString code ++ ")"
  | none => fault.reason

end Fault

end Accessors.Files
