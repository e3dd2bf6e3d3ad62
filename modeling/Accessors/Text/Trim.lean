import Accessors.Unicode.Class

/-!
# Trimming

`dropTrailing p` removes the longest run of characters with `p` at the end of a text, as
`List.dropWhile` does at its start, and `trim` removes the white space on both sides.
-/

namespace Accessors.Text

/-- The text without the characters with `p` at its end. -/
def dropTrailing (p : Char → Bool) (cs : List Char) : List Char :=
  (cs.reverse.dropWhile p).reverse

/-- The text without the white space at its start and at its end. -/
def trim (cs : List Char) : List Char :=
  dropTrailing Unicode.isBlank (cs.dropWhile Unicode.isBlank)

/-- Whether a text is empty or white space only. -/
def isBlankText (cs : List Char) : Bool :=
  cs.all Unicode.isBlank

theorem exists_dropTrailing_append (p : Char → Bool) (cs : List Char) :
    ∃ ds, cs = dropTrailing p cs ++ ds ∧ ds.all p = true := by
  refine ⟨(cs.reverse.takeWhile p).reverse, ?_, ?_⟩
  · rw [dropTrailing, ← List.reverse_append, List.takeWhile_append_dropWhile, List.reverse_reverse]
  · simp

end Accessors.Text
