import Accessors.Proofs.Settings.Resolution
import Accessors.Proofs.Unicode.Class
import Mathlib.Logic.Basic

/-!
# Affixes and word characters

The error about an affix says that only word characters are allowed, but those that are allowed are
the letters, the numbers of all kinds and the underscore. So a text is refused for a mark although
all of it is word characters (`isAffix_iff`), and an affix may have a number that is no word
character (`forall_isWord_iff`). The two readings come to the same exactly if a text has neither of
these kinds, or both, or a character that both refuse (`affix_eq_ok_iff_isWord_iff`).
-/

namespace Accessors.Check

open Unicode

/-- Whether a character is refused by either reading. -/
def IsForeign (c : Char) : Prop :=
  ¬ IsAffixLetter c ∧ isWord c = false

variable {text : String}

theorem isAffix_iff : IsAffix text ↔
    ¬ ((∃ c ∈ text.toList, IsExtraMark c) ∨ ∃ c ∈ text.toList, IsForeign c) := by
  have hletter : ∀ c, IsAffixLetter c ↔ ¬ (IsExtraMark c ∨ IsForeign c) := by
    intro c
    rw [← isExtraMark_iff, IsForeign, IsAffixLetter]
    by_cases hletter : isAlphanumeric c = true ∨ c = '_'
    · simp only [hletter, not_true, and_false, false_and, or_self, not_false_iff]
    · cases isWord c <;> simp [hletter]
  simp only [IsAffix, hletter, ← exists_or, ← and_or_left, not_exists, not_and]

theorem forall_isWord_iff : (∀ c ∈ text.toList, isWord c = true) ↔
    ¬ ((∃ c ∈ text.toList, IsExtraNumber c) ∨ ∃ c ∈ text.toList, IsForeign c) := by
  have hword : ∀ c, isWord c = true ↔ ¬ (IsExtraNumber c ∨ IsForeign c) := by
    intro c
    rw [← isExtraNumber_iff, IsForeign, IsAffixLetter]
    by_cases hletter : isAlphanumeric c = true ∨ c = '_'
    · simp [hletter]
    · simp [hletter]
  simp only [hword, ← exists_or, ← and_or_left, not_exists, not_and]

/-- **An affix is accepted exactly if all of it is word characters**, but for texts without foreign
characters in which there are extra numbers and no extra marks, or extra marks and no extra
numbers. -/
theorem affix_eq_ok_iff_isWord_iff (field text : String) :
    (affix field text = .ok () ↔ ∀ c ∈ text.toList, isWord c = true) ↔
      ((∃ c ∈ text.toList, IsExtraNumber c) ↔ ∃ c ∈ text.toList, IsExtraMark c) ∨
        ∃ c ∈ text.toList, IsForeign c := by
  rw [affix_eq_ok_iff, isAffix_iff, forall_isWord_iff]
  by_cases hforeign : ∃ c ∈ text.toList, IsForeign c
  · simp only [hforeign, or_true]
  · simp only [hforeign, or_false]
    rw [not_iff_not]
    exact iff_comm

/-- A small two is accepted and is no word character, and a letter with an accent behind it is
refused although both are word characters. -/
theorem affix_smallTwo_and_accent :
    (affix "declaration.suffix" "²" = .ok () ∧ ¬ ∀ c ∈ "²".toList, isWord c = true) ∧
      affix "declaration.suffix" "e\u0301" =
        .error (.value "declaration.suffix" "e\u0301" (.badCharacter '\u0301')) ∧
      ∀ c ∈ "e\u0301".toList, isWord c = true := by
  have htwo : isWord '²' = false := by decide +kernel
  have hletter : isWord 'e' = true := by decide +kernel
  have haccent : isWord '\u0301' = true := by decide +kernel
  have haccepts : affix "declaration.suffix" "²" = .ok () := by decide +kernel
  have hrefuses : affix "declaration.suffix" "e\u0301" =
      .error (.value "declaration.suffix" "e\u0301" (.badCharacter '\u0301')) := by
    decide +kernel
  refine ⟨⟨haccepts, fun hword => ?_⟩, hrefuses, ?_⟩
  · rw [hword '²' (by simp)] at htwo
    cases htwo
  · simp [hletter, haccent]

end Accessors.Check
