import Accessors.Text.Number

/-!
# Numbers that are written in decimal digits

The digits of a number are read back as the number (`ofDigits?_toDigits`, `decimal?_toDigits`), and
a number other than zero does not start with a zero (`head?_toDigits_ne`).
-/

namespace Accessors.Text

theorem digit?_of_isDigit {c : Char} (h : c.isDigit = true) :
    digit? 10 c = some (c.toNat - '0'.toNat) := by
  have hrange : '0' ≤ c ∧ c ≤ '9' := by
    simpa [Char.isDigit, Char.le_def] using h
  have hnine : c.toNat ≤ 57 := hrange.2
  simp [digit?, hrange]
  omega

theorem foldl_digits {cs : List Char} (h : ∀ c ∈ cs, c.isDigit = true) (start : Nat) :
    cs.foldl (fun number? c => do return (← number?) * 10 + (← digit? 10 c)) (some start) =
      some (Nat.ofDigitChars 10 cs start) := by
  induction cs generalizing start with
  | nil => rfl
  | cons c cs ih =>
    have hdigit := digit?_of_isDigit (h c (by simp))
    rw [List.foldl_cons, Nat.ofDigitChars_cons, hdigit]
    have hnext : (do return (← some start) * 10 + (← some (c.toNat - '0'.toNat)) : Option Nat) =
        some (10 * start + (c.toNat - '0'.toNat)) := by
      rw [Nat.mul_comm 10 start]
      rfl
    rw [hnext]
    exact ih (fun d hd => h d (by simp [hd])) _

theorem isDigit_of_mem_toDigits {number : Nat} {c : Char} (h : c ∈ Nat.toDigits 10 number) :
    c.isDigit = true :=
  Nat.isDigit_of_mem_toDigits (by decide) (by decide) h

theorem ofDigits?_toDigits (number : Nat) :
    ofDigits? 10 (Nat.toDigits 10 number) = some number := by
  rw [ofDigits?, foldl_digits (fun c hc => isDigit_of_mem_toDigits hc),
    Nat.ofDigitChars_ten_toDigits]

theorem decimal?_toDigits (number : Nat) : decimal? (Nat.toDigits 10 number) = some number := by
  rw [decimal?, ofDigits?_toDigits, if_neg]
  simp [Nat.toDigits_ne_nil]

theorem toList_toString (number : Nat) : (toString number).toList = Nat.toDigits 10 number := by
  rw [Nat.toString_eq_repr, Nat.toList_repr]

theorem notMem_toDigits {c : Char} (h : c.isDigit = false) (number : Nat) :
    c ∉ Nat.toDigits 10 number := by
  intro hmem
  rw [isDigit_of_mem_toDigits hmem] at h
  cases h

theorem head?_toDigits_ne {number : Nat} (h : number ≠ 0) :
    (Nat.toDigits 10 number).head? ≠ some '0' := by
  induction number using Nat.strongRecOn with
  | ind number ih =>
    by_cases hsmall : number < 10
    · rw [Nat.toDigits_of_lt_base hsmall]
      simpa using h
    · rw [Nat.toDigits_of_base_le (by decide) (by omega), List.head?_append]
      have hfront := ih (number / 10) (by omega) (by omega)
      cases hhead : (Nat.toDigits 10 (number / 10)).head? with
      | none => exact absurd (List.head?_eq_none_iff.1 hhead) Nat.toDigits_ne_nil
      | some c => rwa [hhead] at hfront

end Accessors.Text
