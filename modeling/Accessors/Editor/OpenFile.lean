import Accessors.Editor.Basic
import Accessors.Files.Save
import Accessors.Text.Cut
import Accessors.Text.Lines

/-!
# Files that are open for editing

An `OpenFile` keeps the text that was read from a file, the location of the file with all links
followed, and the line ending of the document, to which fragments are converted before they are put
in. With the tree around it, it is an editor. Every edit is saved; one that cannot be saved leaves
the text as it was.
-/

namespace Accessors

/-- A file that is open for editing. -/
structure OpenFile where
  /-- The path it was opened by. -/
  path : String
  /-- The location of the file itself. -/
  target : Files.Location
  text : String
  ending : Text.LineEnding
  cursor : Text.Position
deriving DecidableEq, Repr, Inhabited

/-- An open file and the tree around it. -/
structure FileDesk where
  file : OpenFile
  tree : Files.Tree

namespace OpenFile

/-- Opens the file that a path leads to. -/
def open? (tree : Files.Tree) (path : String) (cursor : Text.Position) : Except Error OpenFile :=
  match tree.readText? path, tree.resolve? path with
  | .error fault, _ => .error (.file fault)
  | _, .error fault => .error (.file fault)
  | .ok text, .ok target => .ok { path, target, text, ending := .ofText text, cursor }

def openedNotice (file : OpenFile) : Log.Notice :=
  .opened file.path file.text.utf8ByteSize file.ending

/-- The document with fragments put in, in its own line ending. -/
def updated (file : OpenFile) (position : Text.Position) (fragments : List String) : String :=
  Text.insertAt file.text position (fragments.map file.ending.convert)

end OpenFile

namespace FileDesk

/-- Puts fragments into the open file and saves it. -/
def insert (desk : FileDesk) (position : Text.Position) (fragments : List String) :
    Response FileDesk Unit :=
  let file := desk.file
  let text := file.updated position fragments
  match desk.tree.save file.target text.toUTF8 with
  | (.error fault, tree) => { result := .error (.file fault), editor := { file, tree } }
  | (.ok (), tree) =>
    { result := .ok ()
      editor := { file := { file with text }, tree }
      notices := [.wrote (text.utf8ByteSize - file.text.utf8ByteSize) (tree.display file.target)] }

instance : Editor FileDesk where
  lines? desk := some (Text.linesOf desk.file.text)
  fileName? desk := some desk.file.path
  cursor? desk := some desk.file.cursor
  insert := insert

end FileDesk

end Accessors
