import Accessors.Log.Pattern.Bracket
import Accessors.Log.Pattern.Group

/-!
# Which texts are patterns

`Pattern.isValid` tells whether a text is a pattern. A pattern never holds a closing brace, so that
it has no counted repetition. Its parts may stand in one another 250 deep, and no two groups have
one name.
-/

namespace Accessors.Log.Pattern

/-- A part of a pattern. -/
inductive Token
  /-- A piece, which is so deep. -/
  | piece (depth : Nat)
  /-- A sign that repeats the piece in front of it. -/
  | repetition
  /-- The bar between two alternatives. -/
  | bar
  /-- An opening parenthesis and what follows it. -/
  | opening (opening : Opening)
  | closing
deriving DecidableEq, Repr, Inhabited

/-- Takes a sign that makes a repetition short off the front of a text if there is one. -/
def dropLazy : List Char → List Char
  | '?' :: cs => cs
  | cs => cs

/-- Takes a part of a pattern off the front of a text that has a character. -/
def token? (mode : Mode) : List Char → Option (Token × List Char)
  | [] => none
  | '(' :: cs => (Opening.read? mode cs).map fun (opening, rest) => (.opening opening, rest)
  | ')' :: cs => some (.closing, cs)
  | '|' :: cs => some (.bar, cs)
  | '[' :: cs => (Bracket.read? mode cs).map fun (depth, rest) => (.piece depth, rest)
  | '?' :: cs => some (.repetition, dropLazy cs)
  | '*' :: cs => some (.repetition, dropLazy cs)
  | '+' :: cs => some (.repetition, dropLazy cs)
  | '\x7b' :: _ => none
  | '\\' :: cs => (Escape.read? mode cs).map fun (_, rest) => (.piece 0, rest)
  | '.' :: cs => if mode.unicode then some (.piece 0, cs) else none
  | _ :: cs => some (.piece 0, cs)

/-- A pattern as far as it has been read. -/
structure Draft where
  /-- How the text is read. -/
  mode : Mode := {}
  /-- The innermost group that is open; at the outset this is the pattern itself. -/
  group : Group := {}
  /-- The groups around it from the inside out, and how the text is read in them. -/
  outer : List (Mode × Group) := []
  names : List (List Char) := []
deriving DecidableEq, Repr, Inhabited

namespace Draft

/-- The draft inside a new group. -/
def openGroup (draft : Draft) (mode : Mode) : Draft :=
  { draft with mode, group := {}, outer := (draft.mode, draft.group) :: draft.outer }

def extend? (draft : Draft) : Token → Option Draft
  | .piece depth => some { draft with group := draft.group.add depth }
  | .repetition => draft.group.repeated?.map fun group => { draft with group }
  | .bar => some { draft with group := draft.group.nextAlternative }
  | .opening (.flags mode) => some { draft with mode, group := draft.group.addFlags }
  | .opening (.group mode) => some (draft.openGroup mode)
  | .opening (.named name) =>
    if draft.names.contains name then none
    else some { draft.openGroup draft.mode with names := name :: draft.names }
  | .closing =>
    match draft.outer with
    | [] => none
    | (mode, group) :: outer =>
      some { draft with mode, group := group.add (draft.group.height + 1), outer }

/-- The draft with all of a text added. -/
def readAll? (draft : Draft) (cs : List Char) : Option Draft :=
  match draft.mode.skip cs with
  | [] => some draft
  | start =>
    match token? draft.mode start with
    | none => none
    | some (token, rest) =>
      match draft.extend? token with
      | none => none
      | some draft => if rest.length < cs.length then draft.readAll? rest else none
termination_by cs.length

end Draft

/-- How deep the parts of a pattern may stand in one another. -/
def maxDepth : Nat := 250

def isValid (cs : List Char) : Bool :=
  (Draft.readAll? {} cs).any fun draft => draft.outer.isEmpty && draft.group.height ≤ maxDepth

end Accessors.Log.Pattern
