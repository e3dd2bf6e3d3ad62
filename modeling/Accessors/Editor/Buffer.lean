import Accessors.Editor.Basic
import Accessors.Text.Cut
import Accessors.Text.Lines

/-!
# Buffers

A `Buffer` is an editor in memory: it holds at most one document and counts the edits made since
that was opened.
-/

namespace Accessors

/-- A document in memory. -/
structure Document where
  /-- The name of the file it stands for. -/
  fileName : String
  text : String
  cursor : Text.Position
deriving DecidableEq, Repr, Inhabited

/-- An editor that holds its document in memory. -/
structure Buffer where
  document : Option Document := none
  /-- How many edits have been made. -/
  edits : Nat := 0
deriving DecidableEq, Repr, Inhabited

namespace Buffer

def ofDocument (document : Document) : Buffer :=
  { document := some document }

def text? (buffer : Buffer) : Option String :=
  buffer.document.map Document.text

def moveTo (buffer : Buffer) (cursor : Text.Position) : Buffer :=
  { buffer with document := buffer.document.map fun document => { document with cursor } }

/-- Puts fragments into the open document and counts the edit. -/
def insert (buffer : Buffer) (position : Text.Position) (fragments : List String) :
    Response Buffer Unit :=
  match buffer.document with
  | none => { result := .error (.editor "no document is open"), editor := buffer }
  | some document =>
    let text := Text.insertAt document.text position fragments
    { result := .ok ()
      editor := { document := some { document with text }, edits := buffer.edits + 1 } }

instance : Editor Buffer where
  lines? buffer := buffer.text?.map Text.linesOf
  fileName? buffer := buffer.document.map Document.fileName
  cursor? buffer := buffer.document.map Document.cursor
  insert := insert

end Buffer

end Accessors
