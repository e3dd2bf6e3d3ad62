import Mathlib.Algebra.Group.Nat.Defs
import Mathlib.Data.List.Basic

/-!
# The order of texts

Texts are ordered character by character. Their bytes give the same order (`utf8_lt_iff`), because
the encoding of a smaller character is smaller at the first byte where the two differ
(`utf8EncodeChar_append_lt`): the first byte decides unless both characters take as many bytes and
agree in their leading bits, and then the continuation bytes are compared as digits to the base 64.
-/

namespace Accessors.Text

/-- The bytes of a text. -/
def utf8 (text : String) : List UInt8 :=
  text.toUTF8.data.toList

/-! ## One character -/

/-- The continuation bytes of the lowest digits of a number to the base 64, so many of them. -/
def continuationBytes : Nat → Nat → List UInt8
  | 0, _ => []
  | k + 1, n => UInt8.ofNat (n / 64 ^ k % 64 + 0x80) :: continuationBytes k n

/-- How many continuation bytes a code point takes. -/
def continuationCount (n : Nat) : Nat :=
  if n ≤ 0x7f then 0 else if n ≤ 0x7ff then 1 else if n ≤ 0xffff then 2 else 3

/-- What is added to the leading digit in front of so many continuation bytes. -/
def leadMark : Nat → Nat
  | 0 => 0
  | 1 => 0xc0
  | 2 => 0xe0
  | _ => 0xf0

/-- The first byte of the encoding of a code point. -/
def leadByte (n : Nat) : Nat :=
  n / 64 ^ continuationCount n + leadMark (continuationCount n)

theorem leadByte_cases (n : Nat) :
    (n ≤ 0x7f ∧ continuationCount n = 0 ∧ leadByte n = n) ∨
    (0x7f < n ∧ n ≤ 0x7ff ∧ continuationCount n = 1 ∧ leadByte n = n / 64 + 0xc0) ∨
    (0x7ff < n ∧ n ≤ 0xffff ∧ continuationCount n = 2 ∧ leadByte n = n / 4096 + 0xe0) ∨
    (0xffff < n ∧ continuationCount n = 3 ∧ leadByte n = n / 262144 + 0xf0) := by
  simp only [leadByte, continuationCount]
  split_ifs <;> simp [leadMark] <;> omega

theorem toNat_val_lt (c : Char) : c.val.toNat < 0x110000 := by
  rcases c.valid with h | ⟨-, h⟩
  · exact Nat.lt_trans h (by decide)
  · exact h

theorem utf8EncodeChar_eq (c : Char) : String.utf8EncodeChar c =
    UInt8.ofNat (leadByte c.val.toNat) ::
      continuationBytes (continuationCount c.val.toNat) c.val.toNat := by
  have hlt := toNat_val_lt c
  simp only [String.utf8EncodeChar]
  generalize c.val.toNat = n at hlt
  obtain ⟨h, hk, hb⟩ | ⟨hl, h, hk, hb⟩ | ⟨hl, h, hk, hb⟩ | ⟨hl, hk, hb⟩ := leadByte_cases n
  · rw [if_pos h, hk, hb]
    rfl
  · rw [if_neg (by omega), if_pos h, hk, hb, Nat.mod_eq_of_lt (by omega : n / 64 < 0x20)]
    simp [continuationBytes]
  · rw [if_neg (by omega), if_neg (by omega), if_pos h, hk, hb,
      Nat.mod_eq_of_lt (by omega : n / 4096 < 0x10)]
    simp [continuationBytes]
  · rw [if_neg (by omega), if_neg (by omega), if_neg (by omega), hk, hb,
      Nat.mod_eq_of_lt (by omega : n / 262144 < 0x08)]
    simp [continuationBytes]

theorem ofNat_lt_ofNat {a b : Nat} (h : a < b) (hb : b < 256) : UInt8.ofNat a < UInt8.ofNat b := by
  rw [UInt8.lt_iff_toNat_lt, UInt8.toNat_ofNat', UInt8.toNat_ofNat']
  omega

theorem continuationBytes_append_lt {k n m : Nat} (h : n < m) (hk : n / 64 ^ k = m / 64 ^ k)
    (s t : List UInt8) : continuationBytes k n ++ s < continuationBytes k m ++ t := by
  induction k with
  | zero => simp at hk; omega
  | succ k ih =>
    rw [Nat.pow_succ, ← Nat.div_div_eq_div_mul, ← Nat.div_div_eq_div_mul] at hk
    simp only [continuationBytes, List.cons_append, List.cons_lt_cons_iff]
    have hle : n / 64 ^ k ≤ m / 64 ^ k := Nat.div_le_div_right (Nat.le_of_lt h)
    rcases Nat.lt_or_eq_of_le hle with hlt | heq
    · exact .inl (ofNat_lt_ofNat (by omega) (by omega))
    · exact .inr ⟨by rw [heq], ih heq⟩

theorem leadByte_lt_or {n m : Nat} (h : n < m) : leadByte n < leadByte m ∨
    leadByte n = leadByte m ∧ continuationCount n = continuationCount m ∧
      n / 64 ^ continuationCount m = m / 64 ^ continuationCount m := by
  obtain ⟨_, hk, hb⟩ | ⟨_, _, hk, hb⟩ | ⟨_, _, hk, hb⟩ | ⟨_, hk, hb⟩ := leadByte_cases n <;>
    obtain ⟨_, hk', hb'⟩ | ⟨_, _, hk', hb'⟩ | ⟨_, _, hk', hb'⟩ | ⟨_, hk', hb'⟩ :=
      leadByte_cases m <;>
    simp only [hk, hb, hk', hb', Nat.reducePow, true_and, Nat.add_right_cancel_iff, and_self] <;>
    omega

theorem utf8EncodeChar_append_lt {c d : Char} (h : c < d) (s t : List UInt8) :
    String.utf8EncodeChar c ++ s < String.utf8EncodeChar d ++ t := by
  have hlt : c.val.toNat < d.val.toNat := UInt32.lt_iff_toNat_lt.1 (Char.lt_def.1 h)
  have hd := toNat_val_lt d
  simp only [utf8EncodeChar_eq, List.cons_append, List.cons_lt_cons_iff]
  rcases leadByte_lt_or hlt with hlead | ⟨hlead, hcount, hdigits⟩
  · have hbound : leadByte d.val.toNat < 256 := by
      have := leadByte_cases d.val.toNat
      omega
    exact .inl (ofNat_lt_ofNat hlead hbound)
  · rw [hlead, hcount]
    exact .inr ⟨rfl, continuationBytes_append_lt hlt hdigits s t⟩

/-! ## Texts -/

theorem utf8_eq (text : String) : utf8 text = text.toList.flatMap String.utf8EncodeChar := by
  rw [utf8, String.toUTF8_eq_toByteArray]
  conv_lhs => rw [← String.ofList_toList (s := text), String.toByteArray_ofList]
  rw [List.utf8Encode, List.data_toByteArray]

theorem flatMap_utf8EncodeChar_lt {cs ds : List Char} (h : cs < ds) :
    cs.flatMap String.utf8EncodeChar < ds.flatMap String.utf8EncodeChar := by
  induction cs generalizing ds with
  | nil =>
    obtain ⟨d, ds, rfl⟩ := List.exists_cons_of_ne_nil (by rintro rfl; simp at h : ds ≠ [])
    rw [List.flatMap_nil, List.flatMap_cons, utf8EncodeChar_eq]
    exact List.nil_lt_cons _ _
  | cons c cs ih =>
    cases ds with
    | nil => simp at h
    | cons d ds =>
      rw [List.flatMap_cons, List.flatMap_cons]
      rcases List.cons_lt_cons_iff.1 h with hlt | ⟨rfl, hrest⟩
      · exact utf8EncodeChar_append_lt hlt _ _
      · exact List.append_left_lt (ih hrest)

/-- **The order of texts is the order of their bytes.** -/
theorem utf8_lt_iff {s t : String} : utf8 s < utf8 t ↔ s < t := by
  rw [utf8_eq, utf8_eq, String.lt_iff]
  refine ⟨fun h => ?_, flatMap_utf8EncodeChar_lt⟩
  by_contra hnot
  rcases List.le_iff_lt_or_eq.1 (List.not_lt.1 hnot) with hlt | heq
  · exact List.lt_asymm h (flatMap_utf8EncodeChar_lt hlt)
  · rw [heq] at h
    exact List.lt_irrefl _ h

end Accessors.Text
