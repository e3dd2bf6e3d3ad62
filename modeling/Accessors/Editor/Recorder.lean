import Accessors.Editor.Basic

/-!
# Recorders

A `Recorder` is an editor without a text of its own: it answers with what it was given, and accepts
every edit and writes it down, or refuses every edit.
-/

namespace Accessors

/-- An edit: where and what to put in. -/
structure Edit where
  position : Text.Position
  /-- The pieces that are put in, in order. -/
  fragments : List String
deriving DecidableEq, Repr, Inhabited

/-- An editor with fixed answers that writes down its edits. -/
structure Recorder where
  lines : Option (List String) := none
  fileName : Option String := none
  cursor : Option Text.Position := none
  /-- What it says to every edit, if it refuses them. -/
  refusal : Option String := none
  /-- The edits it has accepted, in order. -/
  edits : List Edit := []
deriving DecidableEq, Repr, Inhabited

namespace Recorder

/-- Writes an edit down, or refuses it. -/
def insert (recorder : Recorder) (position : Text.Position) (fragments : List String) :
    Response Recorder Unit :=
  match recorder.refusal with
  | some detail => { result := .error (.editor detail), editor := recorder }
  | none =>
    { result := .ok ()
      editor := { recorder with edits := recorder.edits ++ [⟨position, fragments⟩] } }

instance : Editor Recorder where
  lines? := lines
  fileName? := fileName
  cursor? := cursor
  insert := insert

end Recorder

end Accessors
