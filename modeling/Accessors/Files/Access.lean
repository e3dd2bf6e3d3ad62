import Accessors.Files.Tree

/-!
# Reading and writing files

The operations on a `Tree` that change or read it. Reading, writing and setting a mode follow a link
at the end of a path; renaming and removing act on the link itself. What is in a file is up to the
permissions of its owner; making, replacing and taking away a name, and setting a mode, are up to
the refusals of the tree. An operation that fails leaves the tree as it was.
-/

namespace Accessors.Files.Tree

/-- The mode of a file that is written for the first time. -/
def defaultMode : Mode := 0o644

def directoryMode : Mode := 0o755

/-- Whether a mode lets the owner of a file read it. -/
def isReadable (mode : Mode) : Bool :=
  mode.getLsbD 8

/-- Whether a mode lets the owner of a file write it. -/
def isWritable (mode : Mode) : Bool :=
  mode.getLsbD 7

/-- Fails if the name at a location cannot be made, replaced or taken away. -/
def allowName (tree : Tree) (location : Location) : Except Fault Unit :=
  match tree.refusals.name? location with
  | some fault => .error fault
  | none => .ok ()

/-- Fails if the mode of the file at a location cannot be changed. -/
def allowMode (tree : Tree) (location : Location) : Except Fault Unit :=
  match tree.refusals.mode? location with
  | some fault => .error fault
  | none => .ok ()

/-- The bytes of the file that a path leads to. -/
def read? (tree : Tree) (path : String) : Except Fault ByteArray := do
  let location ← tree.resolve? path
  match tree.lookup? location with
  | some (.file bytes mode) => if isReadable mode then return bytes else throw .denied
  | some .directory => throw .isDirectory
  | _ => throw .notFound

/-- The text of the file that a path leads to. -/
def readText? (tree : Tree) (path : String) : Except Fault String := do
  let bytes ← tree.read? path
  match String.fromUTF8? bytes with
  | some text => return text
  | none => throw .notText

/-- The mode of the entry at a place. -/
def modeAt? (tree : Tree) : Place → Except Fault Mode
  | .vacant _ => .error .notFound
  | .occupied location =>
    match tree.lookup? location with
    | some (.file _ mode) => .ok mode
    | some .directory => .ok directoryMode
    | _ => .error .notFound

/-- Writes a file at a place. A file that is there keeps its mode. -/
def writeAt (tree : Tree) (bytes : ByteArray) : Place → Except Fault Tree
  | .vacant location => do
    tree.allowName location
    return tree.put location (.file bytes defaultMode)
  | .occupied location =>
    match tree.lookup? location with
    | some (.file _ mode) =>
      if isWritable mode then .ok (tree.put location (.file bytes mode)) else .error .denied
    | _ => .error .isDirectory

/-- Gives the file at a place a mode. -/
def setModeAt (tree : Tree) (mode : Mode) : Place → Except Fault Tree
  | .vacant _ => .error .notFound
  | .occupied location =>
    match tree.lookup? location with
    | some (.file bytes _) => do
      tree.allowMode location
      return tree.put location (.file bytes mode)
    | _ => .ok tree

/-- Moves what stands under one name to another, in place of the file or link that is there. -/
def rename (tree : Tree) (source target : Location) : Except Fault Tree := do
  let source ← tree.nameIn? source
  let target ← tree.nameIn? target
  match tree.lookup? source with
  | none => throw .notFound
  | some entry => do
    tree.allowName source
    tree.allowName target
    if tree.isDirectory target then throw .isDirectory
    else return (tree.erase source).put target entry

/-- Removes the file or link under a name. -/
def remove (tree : Tree) (location : Location) : Except Fault Tree := do
  let location ← tree.nameIn? location
  match tree.lookup? location with
  | none => throw .notFound
  | some entry => do
    tree.allowName location
    match entry with
    | .directory => throw .isDirectory
    | _ => return tree.erase location

/-! ## Setting up a tree -/

/-- The tree whose only entries are the directories on the way to its working directory. -/
def rooted (workingDirectory : Location) : Tree :=
  (List.range workingDirectory.length).foldl
    (fun tree depth => tree.put (workingDirectory.take (depth + 1)) .directory)
    { workingDirectory }

/-- Makes one directory at the end of some steps from a location. -/
def makeDirectoryAt (tree : Tree) (here : Location) (steps : List String) : Except Fault Tree := do
  let location ← tree.nameFrom? .taken here steps
  if (tree.lookup? location).isSome then throw .taken
  tree.allowName location
  return tree.put location .directory

/-- The tree, if the steps from a location lead to a directory in it. -/
def checkDirectory (tree : Tree) (here : Location) (steps : List String) : Except Fault Tree :=
  match tree.visit? false maxLinks here steps with
  | .ok (.occupied location) => if tree.isDirectory location then .ok tree else .error .taken
  | _ => .error .taken

/-- Makes a directory at the end of some steps from a location unless one is there. -/
def ensureDirectory (tree : Tree) (here : Location) (steps : List String) : Except Fault Tree :=
  match tree.makeDirectoryAt here steps with
  | .error .taken => tree.checkDirectory here steps
  | made => made

/-- Makes the directory at the end of the first of some ways from a location. Each way leads to the
directory that the one in front of it ends in, which is made first if it is missing. -/
def ensureDirectories (tree : Tree) (here : Location) : List (List String) → Except Fault Tree
  | [] => .ok tree
  | way :: ways =>
    match tree.ensureDirectory here way with
    | .error .notFound => do (← tree.ensureDirectories here ways).ensureDirectory here way
    | made => made

/-- Makes a directory and those on the way to it. -/
def makeDirectory (tree : Tree) (path : String) : Except Fault Tree :=
  if path.isEmpty then
    .ok tree
  else do
    checkPath path
    tree.ensureDirectories (start tree.workingDirectory path)
      (Path.parts path :: Path.ancestors path)

/-- Makes the directories on the way to the last part of a path. -/
def makeParents (tree : Tree) (path : String) : Except Fault Tree :=
  tree.ensureDirectories (start tree.workingDirectory path) (Path.ancestors path)

/-- Writes a file with a mode, making the directories on the way to it. -/
def writeFile (tree : Tree) (path : String) (bytes : ByteArray) (mode : Mode) :
    Except Fault Tree := do
  let tree ← tree.makeParents path
  let written ← tree.writeAt bytes (← tree.place? path true)
  written.setModeAt mode (← written.place? path)

/-- Makes a symbolic link under a name that is free, making the directories on the way to it. -/
def makeLink (tree : Tree) (path target : String) : Except Fault Tree := do
  let tree ← tree.makeParents path
  checkPath target
  let location ← tree.nameAt? .taken path
  if (tree.lookup? location).isSome then throw .taken
  if Path.endsInSlash path then throw .notFound
  tree.allowName location
  return tree.put location (.link target)

/-- Removes the file or link that a path names. -/
def removeFile (tree : Tree) (path : String) : Except Fault Tree := do
  let location ← tree.nameAt? .isDirectory path
  match tree.lookup? location with
  | none => throw .notFound
  | some .directory => throw .isDirectory
  | some _ => do
    if Path.endsInSlash path then throw .notDirectory
    tree.allowName location
    return tree.erase location

/-! ## Looking at a tree -/

/-- Whether what stands at a place may be read. -/
def isReadableEntry : Entry → Bool
  | .file _ mode => isReadable mode
  | .directory => true
  | .link _ => true

/-- The entries below the working directory and their paths from there, in the order of the paths,
if all files may be read. -/
def listing? (tree : Tree) : Except Fault (List (String × Entry)) :=
  let inside := tree.entries.toList.filterMap fun (location, entry) =>
    match tree.workingDirectory.isPrefixOf? location with
    | some (name :: names) => some ("/".intercalate (name :: names), entry)
    | _ => none
  if inside.all (isReadableEntry ·.2) then .ok (inside.mergeSort fun a b => a.1 ≤ b.1)
  else .error .denied

end Accessors.Files.Tree
