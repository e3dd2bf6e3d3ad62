/-!
# Positions in a document

A `Position` is a line and a character in that line, both counted from zero. Positions are ordered
by line first.
-/

namespace Accessors.Text

/-- A place in a document: a line and a character within it, counted from zero. -/
structure Position where
  /-- The line, counted from zero. -/
  line : UInt32
  /-- The number of characters of the line in front of the place. -/
  character : UInt32
deriving DecidableEq, Repr, Inhabited

namespace Position

def startOf (line : UInt32) : Position := ⟨line, 0⟩

/-- The line decides, and within one line the character. -/
instance : Ord Position where
  compare p q := (compare p.line q.line).then (compare p.character q.character)

instance : LE Position where
  le p q := p.line < q.line ∨ p.line = q.line ∧ p.character ≤ q.character

instance (p q : Position) : Decidable (p ≤ q) :=
  inferInstanceAs (Decidable (p.line < q.line ∨ p.line = q.line ∧ p.character ≤ q.character))

end Position

end Accessors.Text
