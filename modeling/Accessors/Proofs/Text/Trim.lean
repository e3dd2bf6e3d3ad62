import Accessors.Text.Trim
import Mathlib.Data.List.TakeWhile

/-!
# Trimmed text

Trimming gives a trimmed text back, whatever white space is put around it (`trim_append`), and
`dropTrailing` gives a text back that has none of the dropped characters at its end
(`dropTrailing_append`). What trimming leaves is trimmed (`isTrimmed_trim`), and the white space it
removes can be put back (`exists_trim_append`).
-/

namespace Accessors.Text

/-- Whether a text has no white space at its start and none at its end. -/
structure IsTrimmed (cs : List Char) : Prop where
  head : ∀ c ∈ cs.head?, Unicode.isBlank c = false
  last : ∀ c ∈ cs.getLast?, Unicode.isBlank c = false

theorem IsTrimmed.append {cs ds : List Char} (h : IsTrimmed cs)
    (hds : ∀ c ∈ ds, Unicode.isBlank c = false) : IsTrimmed (cs ++ ds) := by
  constructor
  · intro c hc
    cases cs with
    | nil => exact hds c (List.mem_of_mem_head? hc)
    | cons d cs => exact h.head c hc
  · intro c hc
    rw [List.getLast?_append] at hc
    cases hlast : ds.getLast? with
    | none => exact h.last c (by simpa [hlast] using hc)
    | some d =>
      obtain rfl : d = c := by simpa [hlast] using hc
      exact hds d (List.mem_of_getLast? hlast)

theorem not_isTrimmed_concat (cs : List Char) {c : Char} (hc : Unicode.isBlank c = true) :
    ¬ IsTrimmed (cs ++ [c]) := by
  intro h
  have hlast : Unicode.isBlank c = false := h.last c (by simp)
  rw [hc] at hlast
  cases hlast

theorem forall_getLast?_append {p : Char → Prop} {cs ds : List Char} (hne : ds ≠ [])
    (h : ∀ c ∈ ds, p c) : ∀ c ∈ (cs ++ ds).getLast?, p c := by
  intro c hc
  obtain ⟨es, d, rfl⟩ := (List.eq_nil_or_concat ds).resolve_left hne
  obtain rfl : d = c := by simpa using hc
  exact h d (by simp)

theorem dropTrailing_of_getLast? {p : Char → Bool} {cs : List Char}
    (h : ∀ c ∈ cs.getLast?, p c = false) : dropTrailing p cs = cs := by
  rcases List.eq_nil_or_concat cs with rfl | ⟨ds, d, rfl⟩
  · rfl
  · have hd : p d = false := h d (by simp)
    simp [dropTrailing, hd]

theorem dropTrailing_append {p : Char → Bool} {cs ds : List Char}
    (h : ∀ c ∈ cs.getLast?, p c = false) (hds : ∀ c ∈ ds, p c = true) :
    dropTrailing p (cs ++ ds) = cs := by
  have hdrop : (ds.reverse ++ cs.reverse).dropWhile p = cs.reverse.dropWhile p :=
    List.dropWhile_append_of_pos fun c hc => hds c (List.mem_reverse.1 hc)
  rw [dropTrailing, List.reverse_append, hdrop]
  exact dropTrailing_of_getLast? h

theorem trim_append_cons {front middle trail : List Char} {c : Char}
    (hc : Unicode.isBlank c = false)
    (hlast : ∀ d ∈ (c :: middle).getLast?, Unicode.isBlank d = false)
    (htrail : isBlankText trail = true) :
    trim (front ++ c :: (middle ++ trail)) = front.dropWhile Unicode.isBlank ++ c :: middle := by
  have hdrop : (front ++ c :: (middle ++ trail)).dropWhile Unicode.isBlank =
      (front.dropWhile Unicode.isBlank ++ c :: middle) ++ trail := by
    rw [List.dropWhile_append]
    split
    · rename_i hnil
      rw [List.isEmpty_iff.1 hnil, List.dropWhile_cons_of_neg (by simp [hc])]
      rfl
    · simp
  have hend : ∀ d ∈ (front.dropWhile Unicode.isBlank ++ c :: middle).getLast?,
      Unicode.isBlank d = false := by
    intro d hd
    rw [List.getLast?_append, List.getLast?_cons, Option.some_or] at hd
    exact hlast d (by rwa [List.getLast?_cons])
  rw [trim, hdrop, dropTrailing_append hend (List.all_eq_true.1 htrail)]

theorem dropTrailing_isPrefix (p : Char → Bool) (cs : List Char) : dropTrailing p cs <+: cs := by
  obtain ⟨ds, hcs, -⟩ := exists_dropTrailing_append p cs
  exact ⟨ds, hcs.symm⟩

theorem getLast?_dropTrailing (p : Char → Bool) (cs : List Char) :
    ∀ c ∈ (dropTrailing p cs).getLast?, p c = false := by
  intro c hc
  have hhead := List.head?_dropWhile_not p cs.reverse
  rw [dropTrailing, List.getLast?_reverse] at hc
  rw [hc] at hhead
  simpa using hhead

theorem head?_dropWhile_isBlank (cs : List Char) :
    ∀ c ∈ (cs.dropWhile Unicode.isBlank).head?, Unicode.isBlank c = false := by
  intro c hc
  have hhead := List.head?_dropWhile_not Unicode.isBlank cs
  rw [hc] at hhead
  simpa using hhead

theorem head?_of_isPrefix {cs ds : List Char} (h : ds <+: cs)
    (hcs : ∀ c ∈ cs.head?, Unicode.isBlank c = false) :
    ∀ c ∈ ds.head?, Unicode.isBlank c = false := by
  obtain ⟨es, rfl⟩ := h
  intro c hc
  apply hcs
  rw [List.head?_append, hc]
  rfl

theorem isTrimmed_trim (cs : List Char) : IsTrimmed (trim cs) where
  head := head?_of_isPrefix (dropTrailing_isPrefix _ _) (head?_dropWhile_isBlank cs)
  last := getLast?_dropTrailing _ _

theorem exists_trim_append (cs : List Char) :
    ∃ lead trail, cs = lead ++ (trim cs ++ trail) ∧ isBlankText lead = true ∧
      isBlankText trail = true := by
  obtain ⟨trail, hrest, htrail⟩ :=
    exists_dropTrailing_append Unicode.isBlank (cs.dropWhile Unicode.isBlank)
  refine ⟨cs.takeWhile Unicode.isBlank, trail, ?_, List.all_takeWhile, htrail⟩
  rw [trim, ← hrest, List.takeWhile_append_dropWhile]

end Accessors.Text
