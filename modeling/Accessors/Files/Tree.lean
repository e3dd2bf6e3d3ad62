import Accessors.Files.Fault
import Accessors.Files.Path
import Std.Data.TreeMap

/-!
# File trees

A `Tree` has files, directories and symbolic links, each at a `Location`, the names on the way to it
from the root. `Tree.visit?` follows a path from a directory, through the links on the way, to the
place it leads to, which is an entry or a free name in a directory. A path on which a file may be
created cannot end in a slash.

What the user may do to the files is a part of the tree: the modes of the files, and the `Refusals`
of the system beside them.
-/

namespace Accessors.Files

/-- The names that lead from the root to a place. -/
abbrev Location := List String

/-- The bits of a mode: the permissions of the owner, the group and others in the low nine, and the
sticky bit and those that set ids above them. -/
abbrev Mode := BitVec 12

/-- What stands at a place. -/
inductive Entry
  /-- A file with its bytes and its mode. -/
  | file (bytes : ByteArray) (mode : Mode)
  | directory
  /-- A symbolic link with the path it stands for. -/
  | link (target : String)

/-- What the system does not let the user do, whatever the modes of the files are. -/
structure Refusals where
  /-- Why the name at a location can be neither made nor replaced nor taken away, if it cannot: its
  directory may not be written, say, or is sticky and the name belongs to someone else. -/
  name? : Location → Option Fault := fun _ => none
  /-- Why the mode of the file at a location cannot be changed, if it cannot: the file belongs to
  someone else, say. -/
  mode? : Location → Option Fault := fun _ => none

/-- A file tree and the directory that relative paths start from. -/
structure Tree where
  /-- The entries below the root. -/
  entries : Std.TreeMap Location Entry := {}
  /-- Where relative paths start. -/
  workingDirectory : Location := []
  /-- What is refused in this tree. -/
  refusals : Refusals := {}

namespace Tree

/-- The entry at a location; the root is a directory. -/
def lookup? (tree : Tree) (location : Location) : Option Entry :=
  if location = [] then some .directory else tree.entries[location]?

def put (tree : Tree) (location : Location) (entry : Entry) : Tree :=
  { tree with entries := tree.entries.insert location entry }

def erase (tree : Tree) (location : Location) : Tree :=
  { tree with entries := tree.entries.erase location }

def isDirectory (tree : Tree) (location : Location) : Bool :=
  match tree.lookup? location with
  | some .directory => true
  | _ => false

/-! ## Following a path -/

/-- The number of symbolic links that are followed on one path. -/
def maxLinks : Nat := 40

/-- The number of bytes that a name may have. -/
def maxNameBytes : Nat := 255

/-- The number of bytes that a path may have. -/
def maxPathBytes : Nat := 4095

/-- Where a path leads. -/
inductive Place
  /-- To an entry that is no link. -/
  | occupied (location : Location)
  /-- To a name that is free in its directory. -/
  | vacant (location : Location)
deriving DecidableEq, Repr, Inhabited

/-- How far a path leads without following a link. -/
inductive Walk
  /-- To its end. -/
  | arrived (place : Place)
  /-- To a link, with the directory it is in, its target, and the steps that remain after it. -/
  | atLink (directory : Location) (target : String) (rest : List String)
  /-- Nowhere. -/
  | failed (fault : Fault)
deriving DecidableEq, Repr, Inhabited

/-- Whether a slash at the end is all that remains of a path. -/
def isTrailingSlash (rest : List String) : Bool :=
  rest = [Path.directoryStep]

/-- Goes along the steps of a path from a location up to the first link. Where a file may be
created, the last name is not looked up if a slash follows it. -/
def walk (tree : Tree) (creating : Bool) : Location → List String → Walk
  | here, [] => .arrived (.occupied here)
  | here, step :: rest =>
    if !tree.isDirectory here then
      .failed .notDirectory
    else if step = "." ∨ step = Path.directoryStep then
      tree.walk creating here rest
    else if step = ".." then
      tree.walk creating here.dropLast rest
    else if creating && isTrailingSlash rest then
      .failed .isDirectory
    else if maxNameBytes < step.utf8ByteSize then
      .failed .nameTooLong
    else
      match tree.lookup? (here ++ [step]) with
      | none => if rest.isEmpty then .arrived (.vacant (here ++ [step])) else .failed .notFound
      | some (.link target) => .atLink here target rest
      | some _ => tree.walk creating (here ++ [step]) rest

/-- Where a path starts. -/
def start (directory : Location) (path : String) : Location :=
  if Path.isAbsolute path then [] else directory

/-- Where the steps of a path lead from a location, if they pass no more than the given number of
links. -/
def visit? (tree : Tree) (creating : Bool) : Nat → Location → List String → Except Fault Place
  | links, here, steps =>
    match tree.walk creating here steps with
    | .arrived place => .ok place
    | .failed fault => .error fault
    | .atLink directory target rest =>
      match links with
      | 0 => .error .tooManyLinks
      | links + 1 =>
        tree.visit? creating links (start directory target) (Path.steps target ++ rest)

/-- A path that can be followed has a character and no null character, and is not too long. -/
def checkPath (path : String) : Except Fault Unit :=
  if path.toList.contains '\x00' then .error .nullInPath
  else if path.isEmpty then .error .notFound
  else if maxPathBytes < path.utf8ByteSize then .error .nameTooLong
  else .ok ()

/-- Where a path leads. -/
def place? (tree : Tree) (path : String) (creating : Bool := false) : Except Fault Place := do
  checkPath path
  tree.visit? creating maxLinks (start tree.workingDirectory path) (Path.steps path)

/-- Where a location leads when links on the way are followed. -/
def placeOf? (tree : Tree) (location : Location) (creating : Bool := false) : Except Fault Place :=
  tree.visit? creating maxLinks [] location

/-- The location of the entry that a path leads to. -/
def resolve? (tree : Tree) (path : String) : Except Fault Location :=
  match tree.place? path with
  | .ok (.occupied location) => .ok location
  | .ok (.vacant _) => .error .notFound
  | .error fault => .error fault

/-- The location of the last of some steps, with links followed on the way from a location but not
at the last name itself. The given fault is for steps that do not end in a name. -/
def nameFrom? (tree : Tree) (nameless : Fault) (here : Location) (steps : List String) :
    Except Fault Location :=
  match tree.visit? false maxLinks here steps.dropLast, steps.getLast? with
  | .error fault, _ => .error fault
  | .ok (.vacant _), _ => .error .notFound
  | .ok (.occupied _), none => .error nameless
  | .ok (.occupied directory), some name =>
    if !tree.isDirectory directory then .error .notDirectory
    else if name = "." ∨ name = ".." then .error nameless
    else if maxNameBytes < name.utf8ByteSize then .error .nameTooLong
    else .ok (directory ++ [name])

/-- The location of a name, with links followed on the way to it. -/
def nameIn? (tree : Tree) (location : Location) : Except Fault Location :=
  tree.nameFrom? .isDirectory [] location

/-- The location of the name that a path ends in. -/
def nameAt? (tree : Tree) (nameless : Fault) (path : String) : Except Fault Location := do
  checkPath path
  tree.nameFrom? nameless (start tree.workingDirectory path) (Path.parts path)

/-! ## Showing locations -/

/-- The path of a location from the working directory if it is in there, and from the root
otherwise. -/
def display (tree : Tree) (location : Location) : String :=
  match tree.workingDirectory.isPrefixOf? location with
  | some (name :: names) => "/".intercalate (name :: names)
  | _ => "/" ++ "/".intercalate location

end Tree

end Accessors.Files
