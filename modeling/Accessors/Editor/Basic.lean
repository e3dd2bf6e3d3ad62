import Accessors.Log.Notice
import Accessors.Text.Position

/-!
# Editors

An editor has a document with a file name and a cursor, or lacks any of these, and takes edits. An
edit puts fragments in at a position, all of them or none. What an editor does is a `Response`: a
result or an error, the editor afterwards, and what there is to report.
-/

namespace Accessors

/-- What a step on an editor comes to. -/
structure Response (σ α : Type) where
  /-- The result of the step, or why it failed. -/
  result : Except Error α
  editor : σ
  /-- What happened on the way, in order. -/
  notices : List Log.Notice := []

/-- What an editor answers and does. -/
class Editor (σ : Type) where
  /-- The lines of the document, if one is open. -/
  lines? : σ → Option (List String)
  fileName? : σ → Option String
  cursor? : σ → Option Text.Position
  /-- Puts fragments in at a position, one after the other, as one edit. -/
  insert : σ → Text.Position → List String → Response σ Unit

end Accessors
