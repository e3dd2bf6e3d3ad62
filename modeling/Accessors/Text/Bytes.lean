/-!
# Cutting a text at bytes

A place in a text may be given as the number of bytes in front of it. `slice?` cuts out what lies
between two places; there is nothing to cut where a place lies inside of a character.
-/

namespace Accessors.Text

/-- The bytes of a text from one place up to another. -/
structure Span where
  /-- The number of bytes in front of the first place. -/
  start : Nat
  /-- The number of bytes in between. -/
  length : Nat
deriving DecidableEq, Repr, Inhabited

/-- The number of bytes of a text. -/
def byteLength : List Char → Nat
  | [] => 0
  | c :: cs => c.utf8Size + byteLength cs

/-- The number of bytes in front of a text that another text ends in. -/
def bytesInFront (cs rest : List Char) : Nat :=
  byteLength cs - byteLength rest

/-- Cuts a text behind so many bytes. -/
def cutBytes? : Nat → List Char → Option (List Char × List Char)
  | 0, cs => some ([], cs)
  | _ + 1, [] => none
  | n + 1, c :: cs =>
    if c.utf8Size ≤ n + 1 then
      (cutBytes? (n + 1 - c.utf8Size) cs).map fun (before, after) => (c :: before, after)
    else
      none

/-- The text behind so many bytes. -/
def dropBytes? (start : Nat) (cs : List Char) : Option (List Char) :=
  (cutBytes? start cs).map (·.2)

/-- The text in a span. -/
def slice? (span : Span) (cs : List Char) : Option (List Char) := do
  let (slice, _) ← cutBytes? span.length (← dropBytes? span.start cs)
  return slice

theorem cutBytes?_append (before after : List Char) :
    cutBytes? (byteLength before) (before ++ after) = some (before, after) := by
  induction before with
  | nil => simp [byteLength, cutBytes?]
  | cons c cs ih =>
    obtain ⟨n, hn⟩ : ∃ n, c.utf8Size + byteLength cs = n + 1 :=
      Nat.exists_eq_succ_of_ne_zero (by have := c.utf8Size_pos; omega)
    have hle : c.utf8Size ≤ n + 1 := by omega
    have hrest : n + 1 - c.utf8Size = byteLength cs := by omega
    rw [byteLength, hn, List.cons_append, cutBytes?, if_pos hle, hrest, ih]
    rfl

end Accessors.Text
