import Accessors.Proofs.Text.Column
import Mathlib.Data.List.Infix

/-!
# Positions in order

Positions are ordered by their lines, and within a line by their characters. The text in front of a
position only grows in this order (`cutAt_isPrefix`): a line further down is cut off behind the one
above it (`fst_cutLine_add`), a larger column takes in more of its line (`cutColumn_isPrefix`), and
no column reaches past the line (`cutColumn_isPrefix_cutLine`). So a position that is taken back to
the end of its line, or to the end of the document, still is where the order says
(`bytesBefore_le_of_le`).
-/

namespace Accessors.Text

/-! ## The order -/

theorem Position.compare_swap (p q : Position) : (compare p q).swap = compare q p := by
  change ((compare p.line q.line).then (compare p.character q.character)).swap =
    (compare q.line p.line).then (compare q.character p.character)
  rw [Ordering.swap_then, ← Std.OrientedOrd.eq_swap, ← Std.OrientedOrd.eq_swap]

/-- Positions are compared the way they are ordered. -/
instance : Std.LawfulOrderOrd Position := by
  have h (p q : Position) : (compare p q).isLE ↔ p ≤ q := by
    change ((compare p.line q.line).then (compare p.character q.character)).isLE ↔
      p.line < q.line ∨ p.line = q.line ∧ p.character ≤ q.character
    rw [Ordering.isLE_then_iff_or, Std.compare_eq_iff_eq, Std.compare_eq_lt, Std.isLE_compare]
  refine ⟨h, fun p q => ?_⟩
  rw [← Position.compare_swap q p, Ordering.isGE_swap]
  exact h q p

/-! ## Lines -/

theorem fst_cutLine_add (n m : Nat) (cs : List Char) :
    (cutLine (n + m) cs).1 = (cutLine n cs).1 ++ (cutLine m (cutLine n cs).2).1 := by
  induction cs generalizing n with
  | nil => cases n <;> cases m <;> rfl
  | cons c cs ih =>
    cases n with
    | zero => rw [Nat.zero_add]; rfl
    | succ n =>
      rw [Nat.add_right_comm, cutLine, cutLine]
      by_cases hc : c = '\n'
      · simp only [if_pos hc, ih, List.cons_append]
      · simp only [if_neg hc, Nat.add_right_comm n m 1, ih, List.cons_append]

theorem cutLine_isPrefix {n m : Nat} (h : n ≤ m) (cs : List Char) :
    (cutLine n cs).1 <+: (cutLine m cs).1 := by
  obtain ⟨k, rfl⟩ := Nat.exists_eq_add_of_le h
  rw [fst_cutLine_add]
  exact List.prefix_append _ _

/-! ## Columns -/

theorem cutColumn_isPrefix {n m : Nat} (h : n ≤ m) (cs : List Char) :
    (cutColumn n cs).1 <+: (cutColumn m cs).1 := by
  rw [fst_cutColumn, fst_cutColumn]
  exact List.take_prefix_take_left h

theorem cutColumn_isPrefix_cutLine (n : Nat) (cs : List Char) :
    (cutColumn n cs).1 <+: (cutLine 1 cs).1 := by
  fun_induction cutColumn n cs with
  | case1 => exact List.nil_prefix
  | case2 => exact List.nil_prefix
  | case3 => exact List.nil_prefix
  | case4 n c cs hend before after hcut ih =>
    have hc : c ≠ '\n' := by
      rintro rfl
      exact hend rfl
    rw [hcut] at ih
    rw [cutLine, if_neg hc]
    exact List.cons_prefix_cons.2 ⟨rfl, ih⟩

/-! ## Positions -/

/-- **The text in front of a position starts the text in front of a later one.** -/
theorem cutAt_isPrefix {p q : Position} (h : p ≤ q) (cs : List Char) :
    (cutAt p.line.toNat p.character.toNat cs).1 <+:
      (cutAt q.line.toNat q.character.toNat cs).1 := by
  rcases h with hline | ⟨hline, hcharacter⟩
  · -- the start of the line below `p` lies between the two positions
    have hbelow : p.line.toNat + 1 ≤ q.line.toNat := hline
    have hcolumn := cutColumn_isPrefix_cutLine p.character.toNat (cutLine p.line.toNat cs).2
    calc (cutAt p.line.toNat p.character.toNat cs).1
      _ <+: (cutLine (p.line.toNat + 1) cs).1 := by
        rw [fst_cutLine_add]
        exact (List.prefix_append_right_inj _).2 hcolumn
      _ <+: (cutLine q.line.toNat cs).1 := cutLine_isPrefix hbelow cs
      _ <+: (cutAt q.line.toNat q.character.toNat cs).1 := List.prefix_append _ _
  · rw [hline]
    exact (List.prefix_append_right_inj _).2 (cutColumn_isPrefix hcharacter _)

/-- **Places in a document are in the order of their positions.** -/
theorem bytesBefore_le_of_le {p q : Position} (h : p ≤ q) (text : String) :
    bytesBefore text p ≤ bytesBefore text q := by
  obtain ⟨between, hbetween⟩ := cutAt_isPrefix h text.toList
  have hcut : (cut text q).1 = (cut text p).1 ++ String.ofList between := by
    simp only [cut]
    rw [← hbetween, String.ofList_append]
  rw [bytesBefore, bytesBefore, hcut, String.utf8ByteSize_append]
  exact Nat.le_add_right _ _

theorem bytesBefore_le_of_le_lineEnd :
    (⟨0, 9⟩ : Position) ≤ ⟨1, 0⟩ ∧
      bytesBefore "é\r\nb" ⟨0, 9⟩ ≤ bytesBefore "é\r\nb" ⟨1, 0⟩ := by
  have h : (⟨0, 9⟩ : Position) ≤ ⟨1, 0⟩ := by decide
  exact ⟨h, bytesBefore_le_of_le h "é\r\nb"⟩

end Accessors.Text
