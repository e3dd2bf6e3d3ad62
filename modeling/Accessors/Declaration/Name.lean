import Accessors.Files.Path

/-!
# The declaration a file is named for

A file is named for a declaration: `src/Foo.ts` for `Foo`. The name is the last part of the path
without its extension, the text from the last dot on. A dot at the start of the part does not begin
an extension.
-/

namespace Accessors.Declaration

/-- A file name without its extension. -/
def stem (name : List Char) : List Char :=
  match name.reverse.dropWhile (· ≠ '.') with
  | [] => name
  | [_] => name
  | _ :: before => before.reverse

/-- The last part of a path, if it names an entry of its directory. -/
def fileName? (path : String) : Option String :=
  match (Files.Path.properParts path).getLast? with
  | some ".." => none
  | name => name

/-- The declaration that a file is named for, if the path ends in a name. -/
def name? (path : String) : Option String :=
  (fileName? path).map fun name => String.ofList (stem name.toList)

end Accessors.Declaration
