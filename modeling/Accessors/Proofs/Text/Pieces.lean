import Accessors.Text.Split
import Mathlib.Data.List.TakeWhile

/-!
# The pieces of a text

A separator between two texts parts their pieces (`pieces_append`), and a text without one is its
only piece. So texts that are put together with separators in between are cut apart again
(`pieces_intercalate`). What is in front of the first separator is also what is passed over on the
way to it (`takeWhile_append_cons`, `dropWhile_append_cons`).
-/

namespace Accessors.Text

variable {separator : Char}

/-! ## The first separator -/

theorem decide_ne_of_notMem {cs : List Char} (h : separator ∉ cs) :
    ∀ c ∈ cs, decide (c ≠ separator) = true := by
  intro c hc
  exact decide_eq_true fun e => h (e ▸ hc)

theorem dropWhile_of_notMem {cs : List Char} (h : separator ∉ cs) :
    cs.dropWhile (· ≠ separator) = [] := by
  have hdrop : (cs ++ []).dropWhile (· ≠ separator) = [] :=
    List.dropWhile_append_of_pos (decide_ne_of_notMem h)
  rwa [List.append_nil] at hdrop

theorem takeWhile_append_cons {front : List Char} (h : separator ∉ front) (rest : List Char) :
    (front ++ separator :: rest).takeWhile (· ≠ separator) = front := by
  rw [List.takeWhile_append_of_pos (decide_ne_of_notMem h),
    List.takeWhile_cons_of_neg (by simp), List.append_nil]

theorem dropWhile_append_cons {front : List Char} (h : separator ∉ front) (rest : List Char) :
    (front ++ separator :: rest).dropWhile (· ≠ separator) = separator :: rest := by
  rw [List.dropWhile_append_of_pos (decide_ne_of_notMem h),
    List.dropWhile_cons_of_neg (by simp)]

/-! ## All separators -/

theorem pieces_of_notMem {cs : List Char} (h : separator ∉ cs) : pieces separator cs = [cs] := by
  induction cs with
  | nil => rfl
  | cons c cs ih =>
    obtain ⟨hne, hrest⟩ := not_or.1 (mt List.mem_cons.2 h)
    rw [pieces, if_neg (Ne.symm hne), ih hrest]

theorem pieces_append (front rest : List Char) :
    pieces separator (front ++ separator :: rest) =
      pieces separator front ++ pieces separator rest := by
  induction front with
  | nil => simp [pieces]
  | cons c front ih =>
    rw [List.cons_append, pieces, pieces, ih]
    by_cases hc : c = separator
    · rw [if_pos hc, if_pos hc, List.cons_append]
    · rw [if_neg hc, if_neg hc]
      obtain ⟨piece, others, hpieces⟩ := List.exists_cons_of_ne_nil (pieces_ne_nil separator front)
      rw [hpieces]
      rfl

theorem pieces_intercalate {texts : List (List Char)} (hne : texts ≠ [])
    (h : ∀ text ∈ texts, separator ∉ text) :
    pieces separator ([separator].intercalate texts) = texts := by
  induction texts with
  | nil => exact absurd rfl hne
  | cons text texts ih =>
    have htext : separator ∉ text := h text (by simp)
    cases texts with
    | nil => simpa using pieces_of_notMem htext
    | cons next texts =>
      rw [List.intercalate_cons_cons, List.append_assoc, List.singleton_append, pieces_append,
        pieces_of_notMem htext, List.singleton_append,
        ih (by simp) fun other hother => h other (by simp [hother])]

theorem mem_intercalate {c : Char} {texts : List (List Char)}
    (h : c ∈ [separator].intercalate texts) : c = separator ∨ c ∈ texts.flatten := by
  induction texts with
  | nil => cases h
  | cons text texts ih =>
    cases texts with
    | nil => exact .inr (by simpa using h)
    | cons next texts =>
      rw [List.intercalate_cons_cons, List.append_assoc, List.singleton_append] at h
      rcases List.mem_append.1 h with htext | hrest
      · exact .inr (by simp [htext])
      · rcases List.mem_cons.1 hrest with hseparator | hlater
        · exact .inl hseparator
        · exact (ih hlater).imp id fun hflat => List.mem_append_right text hflat

end Accessors.Text
