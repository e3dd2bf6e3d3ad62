import Accessors.Proofs.Text.Lines
import Accessors.Text.Cut

/-!
# The start of a line

`LineCut n above below` says where a text falls apart at the start of its line `n`, in terms of line
feeds alone. `lineCut_cutLine` and `cutLine_of_lineCut` tie it to the cut that `insertAt` makes:
text that is put in at the start of a line goes between these two parts (`insertAt_startOf`).

If the text has the line (`LineCut.Within`), then the part above is made of ended lines, the lines
of the two parts are the lines of the text in front of line `n` and from there on, and the cut does
not move when text is put in below it (`LineCut.within`). Whether it has the line or not, this is the
first line of the part below (`LineCut.getElem?_lines`).
-/

namespace Accessors.Text

/-- A text falls apart at the start of its line `n`: behind its line feed number `n`, counted from
one, or at its end if it has fewer. -/
inductive LineCut : Nat → List Char → List Char → Prop
  /-- The first line starts where the text does. -/
  | first (below : List Char) : LineCut 0 [] below
  /-- The next line starts behind a line feed. -/
  | behind {n : Nat} (above : List Char) (h : above.count '\n' = n) (below : List Char) :
      LineCut (n + 1) (above ++ ['\n']) below
  /-- A line past the last one is at the end. -/
  | past {n : Nat} {above : List Char} (h : above.count '\n' < n) : LineCut n above []

/-! ## The cut -/

theorem LineCut.cons_lineFeed {n : Nat} {above below : List Char} (h : LineCut n above below) :
    LineCut (n + 1) ('\n' :: above) below := by
  cases h with
  | first => exact .behind [] rfl below
  | behind above h => exact .behind ('\n' :: above) (by rw [List.count_cons_self, h]) below
  | past h => exact .past (by rw [List.count_cons_self]; omega)

theorem LineCut.cons {n : Nat} {c : Char} {above below : List Char} (hc : c ≠ '\n')
    (h : LineCut (n + 1) above below) : LineCut (n + 1) (c :: above) below := by
  cases h with
  | behind above h => exact .behind (c :: above) (by rw [List.count_cons_of_ne hc, h]) below
  | past h => exact .past (by rw [List.count_cons_of_ne hc]; exact h)

theorem lineCut_cutLine (n : Nat) (cs : List Char) :
    LineCut n (cutLine n cs).1 (cutLine n cs).2 := by
  fun_induction cutLine n cs with
  | case1 cs => exact .first cs
  | case2 n => exact .past (Nat.succ_pos n)
  | case3 n c cs before after h ih =>
    rw [h] at ih
    by_cases hc : c = '\n'
    · subst hc
      exact ih.cons_lineFeed
    · rw [if_neg hc] at ih
      exact ih.cons hc

theorem cutLine_concat (above below : List Char) :
    cutLine (above.count '\n' + 1) (above ++ '\n' :: below) = (above ++ ['\n'], below) := by
  induction above with
  | nil => simp [cutLine]
  | cons c cs ih =>
    rw [List.cons_append, cutLine]
    by_cases hc : c = '\n'
    · subst hc
      rw [if_pos rfl, List.count_cons_self, ih]
      rfl
    · rw [if_neg hc, List.count_cons_of_ne hc, ih]
      rfl

theorem cutLine_of_count_lt {n : Nat} {cs : List Char} (h : cs.count '\n' < n) :
    cutLine n cs = (cs, []) := by
  induction cs generalizing n with
  | nil => cases n <;> rfl
  | cons c cs ih =>
    obtain ⟨m, rfl⟩ : ∃ m, n = m + 1 := ⟨n - 1, by omega⟩
    rw [cutLine]
    by_cases hc : c = '\n'
    · subst hc
      rw [List.count_cons_self] at h
      rw [if_pos rfl, ih (by omega)]
    · rw [List.count_cons_of_ne hc] at h
      rw [if_neg hc, ih h]

theorem cutLine_of_lineCut {n : Nat} {above below : List Char} (h : LineCut n above below) :
    cutLine n (above ++ below) = (above, below) := by
  cases h with
  | first => rw [List.nil_append, cutLine]
  | behind above h =>
    subst h
    rw [List.append_assoc]
    exact cutLine_concat above below
  | past h => rw [List.append_nil, cutLine_of_count_lt h]

theorem LineCut.append_left {n : Nat} {above below : List Char} (h : LineCut n above below)
    (hn : 0 < n) (front : List Char) :
    LineCut (front.count '\n' + n) (front ++ above) below := by
  cases h with
  | first => omega
  | behind above h =>
    rw [← List.append_assoc, ← Nat.add_assoc]
    exact .behind (front ++ above) (by rw [List.count_append, h]) below
  | past h => exact .past (by rw [List.count_append]; omega)

theorem exists_lineCut (n : Nat) (text : String) :
    ∃ above below : String, above ++ below = text ∧ LineCut n above.toList below.toList := by
  refine ⟨String.ofList (cutLine n text.toList).1, String.ofList (cutLine n text.toList).2, ?_, ?_⟩
  · rw [← String.ofList_append, cutLine_append, String.ofList_toList]
  · simpa using lineCut_cutLine n text.toList

/-- **What is put in at the start of a line goes between the parts of the document around it.** -/
theorem insertAt_startOf {line : UInt32} {above below : String}
    (h : LineCut line.toNat above.toList below.toList) (fragments : List String) :
    insertAt (above ++ below) (Position.startOf line) fragments =
      above ++ String.join fragments ++ below := by
  have hcut : cut (above ++ below) (Position.startOf line) = (above, below) := by
    simp only [cut, cutAt, Position.startOf, String.toList_append, cutLine_of_lineCut h]
    rw [show (0 : UInt32).toNat = 0 from rfl, cutColumn]
    simp
  rw [insertAt, hcut]

/-! ## Lines that the text has -/

/-- Whether a text has as many lines as the number of the next line says, and all of them are ended:
it is what stands above a line that the document has. -/
structure LineCut.Within (n : Nat) (above : List Char) : Prop where
  ended : Ended above
  count : above.count '\n' = n

theorem count_concat_lineFeed (cs : List Char) : (cs ++ ['\n']).count '\n' = cs.count '\n' + 1 := by
  simp

theorem LineCut.within {n : Nat} {above below : List Char} (h : LineCut n above below)
    (hn : n ≤ (above ++ below).count '\n') : Within n above := by
  cases h with
  | first => exact ⟨ended_nil, rfl⟩
  | behind above h => exact ⟨ended_concat above, by rw [count_concat_lineFeed, h]⟩
  | past h =>
    rw [List.append_nil] at hn
    omega

theorem LineCut.eq_nil_of_count_lt {n : Nat} {above below : List Char} (h : LineCut n above below)
    (hn : (above ++ below).count '\n' < n) : below = [] := by
  cases h with
  | first => omega
  | behind above h =>
    rw [List.count_append, count_concat_lineFeed] at hn
    omega
  | past => rfl

namespace LineCut.Within

variable {n : Nat} {above : List Char}

theorem lineCut (h : Within n above) (below : List Char) : LineCut n above below := by
  obtain ⟨hended, rfl⟩ := h
  rcases List.eq_nil_or_concat above with rfl | ⟨cs, c, rfl⟩
  · exact .first below
  · obtain rfl : c = '\n' := hended c (by simp)
    rw [List.concat_eq_append, count_concat_lineFeed]
    exact .behind cs rfl below

theorem getLast?_eq (h : Within n above) (hn : 0 < n) : above.getLast? = some '\n' := by
  cases hlast : above.getLast? with
  | none =>
    have hcount := h.count
    rw [List.getLast?_eq_none_iff.1 hlast, List.count_nil] at hcount
    omega
  | some c => rw [h.ended c hlast]

theorem length_lines (h : Within n above) (below : List Char) :
    (lines (above ++ below)).length = n + (lines below).length := by
  rw [lines_append h.ended, List.length_append, length_lines_of_ended h.ended, h.count]

end LineCut.Within

theorem LineCut.getElem?_lines {n : Nat} {above below : List Char} (h : LineCut n above below) :
    (lines (above ++ below))[n]? = (lines below).head? := by
  rcases Nat.lt_or_ge ((above ++ below).count '\n') n with hcount | hcount
  · rw [h.eq_nil_of_count_lt hcount, lines_nil, List.head?_nil, List.getElem?_eq_none]
    rw [h.eq_nil_of_count_lt hcount] at hcount
    exact Nat.le_trans (length_lines_le _) hcount
  · have hwithin := h.within hcount
    have hlength := (length_lines_of_ended hwithin.ended).trans hwithin.count
    rw [lines_append hwithin.ended, List.getElem?_append_right (Nat.le_of_eq hlength), hlength,
      Nat.sub_self, List.head?_eq_getElem?]

theorem LineCut.eq_nil_of_length_le {n : Nat} {above below : List Char} (h : LineCut n above below)
    (hn : (lines (above ++ below)).length ≤ n) : below = [] := by
  cases below with
  | nil => rfl
  | cons c cs =>
    have hnone := h.getElem?_lines
    rw [List.getElem?_eq_none hn] at hnone
    exact absurd (List.head?_eq_none_iff.1 hnone.symm) (lines_ne_nil (List.cons_ne_nil c cs))

variable {n : Nat} {above below : String}

theorem LineCut.Within.take_linesOf (h : Within n above.toList) (below : String) :
    (linesOf (above ++ below)).take n = linesOf above := by
  rw [linesOf_append h.ended, List.take_left' (by rw [length_linesOf_of_ended h.ended, h.count])]

theorem LineCut.Within.drop_linesOf (h : Within n above.toList) (below : String) :
    (linesOf (above ++ below)).drop n = linesOf below := by
  rw [linesOf_append h.ended, List.drop_left' (by rw [length_linesOf_of_ended h.ended, h.count])]

end Accessors.Text
