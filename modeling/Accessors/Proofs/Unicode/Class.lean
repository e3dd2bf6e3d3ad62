import Accessors.Unicode.Class

/-!
# Letters, numbers and word characters

The alphanumeric characters and the word characters are two classes with a common core of letters
and decimal digits. Beyond it only the first have the other numbers, such as `²`, and the characters
of Unicode 17 (`IsExtraNumber`), and only the second have the marks, connectors and join controls
(`IsExtraMark`), of which the underscore is counted among the core.

These two kinds have nothing in common with each other or with the core. That is seen from the
tables by going through two of them once, side by side (`Ranges.areApart`). So the kinds are exactly
what one class has and the other has not (`isExtraNumber_iff`, `isExtraMark_iff`).
-/

namespace Accessors.Unicode

variable {c : Char}

/-! ## Tables that are apart -/

namespace Ranges

/-- Whether the ranges of a table are in ascending order, from a code point on. -/
def ascends : Nat → Ranges → Bool
  | _, [] => true
  | least, a :: r => Nat.ble least a.1 && Nat.ble a.1 a.2 && ascends (a.2 + 1) r

/-- Goes through two tables in ascending order and looks if a range of the first meets one of the
second. -/
def sweep : Ranges → Ranges → Bool
  | [], _ => true
  | a :: r, s =>
    let rest := s.dropWhile fun b => Nat.blt b.2 a.1
    (rest.head?.all fun b => Nat.blt a.2 b.1) && sweep r rest

/-- Whether two tables are in ascending order and no range of one meets a range of the other. -/
def areApart (r s : Ranges) : Bool :=
  ascends 0 r && ascends 0 s && sweep r s

theorem has_iff {r : Ranges} : r.has c = true ↔ ∃ a ∈ r, a.1 ≤ c.toNat ∧ c.toNat ≤ a.2 := by
  simp [has]

theorem ascends_cons {least : Nat} {a : Nat × Nat} {r : Ranges} :
    ascends least (a :: r) = true ↔
      least ≤ a.1 ∧ a.1 ≤ a.2 ∧ ascends (a.2 + 1) r = true := by
  simp [ascends, and_assoc]

theorem ascends_mono {least least' : Nat} (h : least' ≤ least) {r : Ranges}
    (hr : ascends least r = true) : ascends least' r = true := by
  cases r with
  | nil => rfl
  | cons a r =>
    rw [ascends_cons] at hr ⊢
    exact ⟨by omega, hr.2⟩

theorem le_of_ascends {least : Nat} {r : Ranges} (h : ascends least r = true) :
    ∀ a ∈ r, least ≤ a.1 := by
  induction r generalizing least with
  | nil => simp
  | cons a r ih =>
    obtain ⟨hleast, hle, hrest⟩ := ascends_cons.1 h
    intro b hb
    rcases List.mem_cons.1 hb with rfl | hb
    · exact hleast
    · have := ih hrest b hb
      omega

theorem ascends_dropWhile {least : Nat} {r : Ranges} (p : Nat × Nat → Bool)
    (h : ascends least r = true) : ascends least (r.dropWhile p) = true := by
  induction r generalizing least with
  | nil => rfl
  | cons a r ih =>
    obtain ⟨hleast, hle, hrest⟩ := ascends_cons.1 h
    rw [List.dropWhile_cons]
    split
    · exact ih (ascends_mono (by omega) hrest)
    · exact h

theorem head_le_of_ascends {least : Nat} {r : Ranges} (h : ascends least r = true) {a b : Nat × Nat}
    (ha : a ∈ r.head?) (hb : b ∈ r) : a.1 ≤ b.1 := by
  cases r with
  | nil => cases hb
  | cons first r =>
    obtain rfl : first = a := Option.some.inj ha
    obtain ⟨-, hle, hrest⟩ := ascends_cons.1 h
    rcases List.mem_cons.1 hb with rfl | hb
    · exact Nat.le_refl _
    · have := le_of_ascends hrest b hb
      omega

theorem has_eq_false_of_sweep {least least' : Nat} {r s : Ranges} (hr : ascends least r = true)
    (hs : ascends least' s = true) (h : sweep r s = true) (hc : r.has c = true) :
    s.has c = false := by
  induction r generalizing least s with
  | nil => cases hc
  | cons a r ih =>
    rw [sweep, Bool.and_eq_true] at h
    obtain ⟨hhead, hsweep⟩ := h
    obtain ⟨-, hle, hrest⟩ := ascends_cons.1 hr
    have hs' := ascends_dropWhile (fun b => Nat.blt b.2 a.1) hs
    obtain ⟨d, hd, hlow, hhigh⟩ := has_iff.1 hc
    apply Bool.eq_false_iff.2
    intro hmeet
    obtain ⟨b, hb, hlow', hhigh'⟩ := has_iff.1 hmeet
    -- `b` is one of the ranges in front of `a`, or of those from there on
    rw [← List.takeWhile_append_dropWhile (p := fun b => Nat.blt b.2 a.1) (l := s)] at hb
    rcases List.mem_append.1 hb with hb | hb
    · have hfront : b.2 < a.1 := by
        simpa using List.all_eq_true.1 List.all_takeWhile b hb
      rcases List.mem_cons.1 hd with rfl | hd
      · omega
      · have := le_of_ascends hrest d hd
        omega
    · rcases List.mem_cons.1 hd with rfl | hd
      · obtain ⟨first, hfirst⟩ := Option.ne_none_iff_exists'.1
          (mt List.head?_eq_none_iff.1 (List.ne_nil_of_mem hb))
        have hbehind : d.2 < first.1 := by
          simpa [hfirst] using hhead
        have := head_le_of_ascends hs' hfirst hb
        omega
      · have hnone := ih hrest hs' hsweep (has_iff.2 ⟨d, hd, hlow, hhigh⟩)
        rw [has_iff.2 ⟨b, hb, hlow', hhigh'⟩] at hnone
        cases hnone

theorem has_eq_false_of_areApart {r s : Ranges} (h : areApart r s = true) (hc : r.has c = true) :
    s.has c = false := by
  rw [areApart, Bool.and_eq_true, Bool.and_eq_true] at h
  exact has_eq_false_of_sweep h.1.1 h.1.2 h.2 hc

/-- Whether every range of one table lies in a range of another. -/
def liesIn (r s : Ranges) : Bool :=
  r.all fun a => s.any fun b => Nat.ble b.1 a.1 && Nat.ble a.2 b.2

theorem has_of_liesIn {r s : Ranges} (h : liesIn r s = true) (hc : r.has c = true) :
    s.has c = true := by
  obtain ⟨a, ha, hlow, hhigh⟩ := has_iff.1 hc
  obtain ⟨b, hb, hin⟩ := List.any_eq_true.1 (List.all_eq_true.1 h a ha)
  rw [Bool.and_eq_true, Nat.ble_eq, Nat.ble_eq] at hin
  exact has_iff.2 ⟨b, hb, by omega, by omega⟩

end Ranges

/-! ## What only one of the classes has -/

/-- Whether a character is a number that is neither a letter nor a digit, or is a letter or a digit
since Unicode 17. -/
def IsExtraNumber (c : Char) : Prop :=
  otherNumber.has c = true ∨ recentAlphabetic.has c = true ∨ recentDigit.has c = true

/-- Whether a character is a mark, a connector or a join control, but no letter and no
underscore. -/
def IsExtraMark (c : Char) : Prop :=
  (mark.has c = true ∨ connector.has c = true ∨ joinControl.has c = true) ∧
    alphabetic.has c = false ∧ c ≠ '_'

/-- Whether a character is in both classes: a letter, a decimal digit or the underscore. -/
def IsCommon (c : Char) : Prop :=
  alphabetic.has c = true ∨ decimalDigit.has c = true ∨ c = '_'

theorem numbers_areApart : ∀ r ∈ [otherNumber, recentAlphabetic, recentDigit],
    ∀ s ∈ [alphabetic, decimalDigit, mark, connector, joinControl], r.areApart s = true := by
  decide +kernel

theorem marks_areApart :
    ∀ r ∈ [mark, connector, joinControl], r.areApart decimalDigit = true := by
  decide +kernel

theorem letterNumber_liesIn : letterNumber.liesIn alphabetic = true := by
  decide +kernel

theorem connector_has_underscore : connector.has '_' = true := by
  decide

theorem IsExtraNumber.not_isWord (h : IsExtraNumber c) : isWord c = false := by
  have hfalse : ∀ r ∈ [otherNumber, recentAlphabetic, recentDigit], r.has c = true →
      ∀ s ∈ [alphabetic, decimalDigit, mark, connector, joinControl], s.has c = false :=
    fun r hr hc s hs => Ranges.has_eq_false_of_areApart (numbers_areApart r hr s hs) hc
  have hapart :
      ∀ s ∈ [alphabetic, decimalDigit, mark, connector, joinControl], s.has c = false := by
    rcases h with h | h | h
    · exact hfalse _ (by simp) h
    · exact hfalse _ (by simp) h
    · exact hfalse _ (by simp) h
  simp only [List.forall_mem_cons] at hapart
  obtain ⟨halphabetic, hdigit, hmark, hconnector, hjoin, -⟩ := hapart
  simp [isWord, halphabetic, hdigit, hmark, hconnector, hjoin]

theorem IsExtraMark.not_isCommon (h : IsExtraMark c) : ¬ IsCommon c := by
  obtain ⟨hmark, halphabetic, hunderscore⟩ := h
  have hfalse : ∀ r ∈ [mark, connector, joinControl], r.has c = true → decimalDigit.has c = false :=
    fun r hr => Ranges.has_eq_false_of_areApart (marks_areApart r hr)
  have hdigit : decimalDigit.has c = false := by
    rcases hmark with h | h | h
    · exact hfalse _ (by simp) h
    · exact hfalse _ (by simp) h
    · exact hfalse _ (by simp) h
  simp [IsCommon, halphabetic, hdigit, hunderscore]

theorem isAlphanumeric_iff :
    isAlphanumeric c = true ∨ c = '_' ↔ IsCommon c ∨ IsExtraNumber c := by
  have hletter := Ranges.has_of_liesIn (c := c) letterNumber_liesIn
  simp only [isAlphanumeric, isAlphabetic, isNumeric, Bool.or_eq_true, IsCommon, IsExtraNumber]
  grind

theorem isWord_iff : isWord c = true ↔ IsCommon c ∨ IsExtraMark c := by
  by_cases hunderscore : c = '_'
  · subst hunderscore
    simp [isWord, IsCommon, connector_has_underscore]
  · cases halphabetic : alphabetic.has c
    · simp only [isWord, Bool.or_eq_true, IsCommon, IsExtraMark, halphabetic, hunderscore]
      grind
    · simp [isWord, IsCommon, halphabetic]

theorem isExtraNumber_iff :
    (isAlphanumeric c = true ∨ c = '_') ∧ isWord c = false ↔ IsExtraNumber c := by
  rw [isAlphanumeric_iff]
  constructor
  · rintro ⟨hcommon | hextra, hword⟩
    · rw [isWord_iff.2 (.inl hcommon)] at hword
      cases hword
    · exact hextra
  · intro hextra
    exact ⟨.inr hextra, hextra.not_isWord⟩

theorem isExtraMark_iff :
    isWord c = true ∧ ¬ (isAlphanumeric c = true ∨ c = '_') ↔ IsExtraMark c := by
  rw [isAlphanumeric_iff]
  constructor
  · rintro ⟨hword, hnot⟩
    rcases isWord_iff.1 hword with hcommon | hextra
    · exact absurd (.inl hcommon) hnot
    · exact hextra
  · intro hextra
    have hword := isWord_iff.2 (.inr hextra)
    refine ⟨hword, ?_⟩
    rintro (hcommon | hnumber)
    · exact hextra.not_isCommon hcommon
    · rw [hnumber.not_isWord] at hword
      cases hword

end Accessors.Unicode
