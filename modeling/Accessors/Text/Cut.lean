import Accessors.Text.Position

/-!
# Cutting a document at a position

A position cuts a text in two. A line past the last one cuts at the end of the text, and a character
past the end of its line cuts in front of the line break; a carriage return right at the end of the
text counts as the start of one. `bytesBefore` is the length of the first part, and `insertAt`
puts text between the two.
-/

namespace Accessors.Text

/-- Cuts behind the given number of line feeds, or at the end of the text. -/
def cutLine : Nat → List Char → List Char × List Char
  | 0, cs => ([], cs)
  | _ + 1, [] => ([], [])
  | n + 1, c :: cs =>
    let (before, after) := cutLine (if c = '\n' then n else n + 1) cs
    (c :: before, after)

/-- Whether a line ends here: at a line break or at the end of the text. -/
def atLineEnd : List Char → Bool
  | [] => true
  | ['\r'] => true
  | '\n' :: _ => true
  | '\r' :: '\n' :: _ => true
  | _ => false

/-- Cuts behind the given number of characters of a line, or at the end of the line. -/
def cutColumn : Nat → List Char → List Char × List Char
  | 0, cs => ([], cs)
  | _ + 1, [] => ([], [])
  | n + 1, c :: cs =>
    if atLineEnd (c :: cs) then
      ([], c :: cs)
    else
      let (before, after) := cutColumn n cs
      (c :: before, after)

/-- Cuts a text at a line and a character of that line. -/
def cutAt (line character : Nat) (cs : List Char) : List Char × List Char :=
  let (above, rest) := cutLine line cs
  let (before, after) := cutColumn character rest
  (above ++ before, after)

/-- The parts of a document before and after a position. -/
def cut (text : String) (position : Position) : String × String :=
  let (before, after) := cutAt position.line.toNat position.character.toNat text.toList
  (String.ofList before, String.ofList after)

/-- How many bytes of a document are in front of a position. -/
def bytesBefore (text : String) (position : Position) : Nat :=
  (cut text position).1.utf8ByteSize

/-- The document with the fragments, one after the other, put in at a position. -/
def insertAt (text : String) (position : Position) (fragments : List String) : String :=
  let (before, after) := cut text position
  before ++ String.join fragments ++ after

theorem cutLine_append (n : Nat) (cs : List Char) : (cutLine n cs).1 ++ (cutLine n cs).2 = cs := by
  fun_induction cutLine n cs with
  | case1 => rfl
  | case2 => rfl
  | case3 n c cs before after h ih => simp_all

theorem cutColumn_append (n : Nat) (cs : List Char) :
    (cutColumn n cs).1 ++ (cutColumn n cs).2 = cs := by
  fun_induction cutColumn n cs with
  | case1 => rfl
  | case2 => rfl
  | case3 => rfl
  | case4 n c cs hc before after h ih => simp_all

theorem cutAt_append (line character : Nat) (cs : List Char) :
    (cutAt line character cs).1 ++ (cutAt line character cs).2 = cs := by
  simp only [cutAt]
  rw [List.append_assoc, cutColumn_append, cutLine_append]

theorem cut_append (text : String) (position : Position) :
    (cut text position).1 ++ (cut text position).2 = text := by
  simp only [cut]
  rw [← String.ofList_append, cutAt_append, String.ofList_toList]

end Accessors.Text
