import Accessors.Text.Trim

/-!
# The fields of a declaration

A field line gives the name of a property, a colon and its type. The name may carry a question mark
and the type may end in commas and semicolons, which belong to neither. A line without a colon is
all type.
-/

namespace Accessors

/-- One field of a declaration. -/
structure Property where
  name : String
  /-- The type of the field, as it is written. -/
  type : String
deriving DecidableEq, Repr, Inhabited

namespace Property

/-- The text in front of the first colon and the text behind it; without a colon, nothing and the
whole text. -/
def splitColon (cs : List Char) : List Char × List Char :=
  match cs.dropWhile (· ≠ ':') with
  | [] => ([], cs)
  | _ :: rest => (cs.takeWhile (· ≠ ':'), rest)

/-- The text without the question mark at its end, if there is one. -/
def dropQuestionMark (cs : List Char) : List Char :=
  if cs.getLast? = some '?' then cs.dropLast else cs

/-- Whether a character ends a field. -/
def isTerminator (c : Char) : Bool :=
  c == ',' || c == ';'

/-- The name that the text in front of the colon gives. -/
def nameOf (cs : List Char) : List Char :=
  dropQuestionMark (Text.trim cs)

/-- The type that the text behind the colon gives. -/
def typeOf (cs : List Char) : List Char :=
  Text.dropTrailing Unicode.isBlank (Text.dropTrailing isTerminator (Text.trim cs))

/-- The property that a field line declares. -/
def ofLine (line : String) : Property :=
  let (before, after) := splitColon line.toList
  ⟨String.ofList (nameOf before), String.ofList (typeOf after)⟩

theorem notMem_splitColon (cs : List Char) : ':' ∉ (splitColon cs).1 := by
  rw [splitColon]
  split
  · exact List.not_mem_nil
  · intro hmem
    have hne := List.all_eq_true.1 List.all_takeWhile ':' hmem
    simp at hne

theorem splitColon_append {before : List Char} (h : ':' ∉ before) (after : List Char) :
    splitColon (before ++ ':' :: after) = (before, after) := by
  have hbefore : ∀ c ∈ before, decide (c ≠ ':') = true := by
    intro c hc
    have hne : c ≠ ':' := fun e => h (e ▸ hc)
    simpa using hne
  rw [splitColon, List.dropWhile_append_of_pos hbefore, List.takeWhile_append_of_pos hbefore]
  simp

theorem toList_name_ofLine (line : String) :
    (ofLine line).name.toList = nameOf (splitColon line.toList).1 := by
  simp [ofLine]

theorem toList_type_ofLine (line : String) :
    (ofLine line).type.toList = typeOf (splitColon line.toList).2 := by
  simp [ofLine]

end Property

end Accessors
