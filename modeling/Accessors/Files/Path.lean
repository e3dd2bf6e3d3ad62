import Accessors.Text.Split

/-!
# Paths

A path is a string whose parts are separated by slashes. Empty parts do not count, except that a
slash at the end asks for a directory.
-/

namespace Accessors.Files.Path

/-- The parts of a path. -/
def parts (path : String) : List String :=
  ((Text.pieces '/' path.toList).filter (· ≠ [])).map String.ofList

/-- The parts of a path without those that lead nowhere. -/
def properParts (path : String) : List String :=
  (parts path).filter (· ≠ ".")

/-- The ways to the directories that a path leads through, from its end to its start. -/
def ancestors (path : String) : List (List String) :=
  let parts := properParts path
  (List.range (parts.length - 1)).reverse.map fun depth => parts.take (depth + 1)

/-- Whether a path starts at the root. -/
def isAbsolute (path : String) : Bool :=
  path.toList.head? = some '/'

def endsInSlash (path : String) : Bool :=
  path.toList.getLast? = some '/'

/-- The step that a slash at the end of a path stands for. It leads nowhere, but only from a
directory. -/
def directoryStep : String := ""

/-- The steps that lead along a path: its parts, and one more for a slash at the end. -/
def steps (path : String) : List String :=
  parts path ++ if endsInSlash path then [directoryStep] else []

end Accessors.Files.Path
