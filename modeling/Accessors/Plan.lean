import Accessors.Declaration.Name
import Accessors.Declaration.Query
import Accessors.Editor.Basic
import Accessors.Layout

/-!
# Plans

A `Plan` says what to do with the document of an editor: look for the properties of the declaration
that its file is named for, and put their accessors in at the start of the line with the cursor. It
touches the editor at most once: `Plan.run` edits only if there are lines, a declaration that can be
looked for, a cursor and at least one property.
-/

namespace Accessors

/-- What a run came to. -/
inductive Outcome
  /-- There was nothing to work on. -/
  | noDocument
  /-- The declaration has no properties. -/
  | noProperties (declaration : String)
  /-- The accessors of this many properties were put in at this position. -/
  | inserted (declaration : String) (properties : Nat) (position : Text.Position)
deriving DecidableEq, Repr, Inhabited

/-- What accessors to put into a document, and how. -/
structure Plan where
  query : Query := {}
  layout : Layout := {}
  /-- The declaration to look for in place of the one the file is named for. -/
  declaration : Option String := none
deriving DecidableEq, Repr, Inhabited

namespace Plan

variable {σ : Type} [Editor σ]

/-- The declaration that is looked for in a file. -/
def declarationOf? (plan : Plan) (fileName : String) : Option String :=
  plan.declaration <|> Declaration.name? fileName

/-- The lines of the document and the declaration to look for in them. -/
def subject? (plan : Plan) (editor : σ) : Option (List String × String) := do
  let lines ← Editor.lines? editor
  let fileName ← Editor.fileName? editor
  let declaration ← plan.declarationOf? fileName
  return (lines, declaration)

/-- The declaration of the document and its properties, if there is a document to read. -/
def properties? (plan : Plan) (editor : σ) : Except Error (Option (String × List Property)) :=
  match plan.subject? editor with
  | none => .ok none
  | some (lines, declaration) =>
    (plan.query.extract lines declaration).map fun properties => some (declaration, properties)

/-- What looking for a declaration in these lines reports. -/
def searchNotice (plan : Plan) (lines : List String) (declaration : String) : Log.Notice :=
  let interface := plan.query.interface declaration
  match Query.locate? interface lines with
  | none => .noDeclaration interface lines.length
  | some (index, _) => .found interface (index + 1)

/-- What reading the properties of the document reports. -/
def searchNotices (plan : Plan) (editor : σ) : List Log.Notice :=
  match plan.subject? editor with
  | none => []
  | some (lines, declaration) =>
    if Declaration.Header.isCompilable (plan.query.interface declaration) then
      [plan.searchNotice lines declaration]
    else
      []

/-- Puts the accessors of the properties in at the start of a line. The notice of it comes before the
edit, so that a program that stops at the notice has not made the edit. -/
def insert (plan : Plan) (editor : σ) (declaration : String) (properties : List Property)
    (line : UInt32) : Response σ Outcome :=
  let position := Text.Position.startOf line
  let fragments := plan.layout.fragments properties
  let response := Editor.insert editor position fragments
  let inserting := .inserting fragments.length line :: response.notices
  match response.result with
  | .error error => { response with result := .error error, notices := inserting }
  | .ok () =>
    { response with
      result := .ok (.inserted declaration properties.length position)
      notices :=
        inserting ++ [.generated properties.length (plan.query.interface declaration)] }

/-- What a run does once the properties are known. -/
def runOn (plan : Plan) (editor : σ) (declaration : String) (properties : List Property) :
    Response σ Outcome :=
  match Editor.cursor? editor with
  | none => { result := .ok .noDocument, editor, notices := [.noCursor] }
  | some cursor =>
    if properties.isEmpty then
      { result := .ok (.noProperties declaration)
        editor
        notices := [.noProperties (plan.query.interface declaration)] }
    else
      plan.insert editor declaration properties cursor.line

/-- Reads the document and puts in the accessors of its properties. -/
def run (plan : Plan) (editor : σ) : Response σ Outcome :=
  match plan.properties? editor with
  | .error error => { result := .error error, editor }
  | .ok none => { result := .ok .noDocument, editor, notices := [.noDocument] }
  | .ok (some (declaration, properties)) =>
    let response := plan.runOn editor declaration properties
    { response with notices := plan.searchNotices editor ++ response.notices }

end Plan

end Accessors
