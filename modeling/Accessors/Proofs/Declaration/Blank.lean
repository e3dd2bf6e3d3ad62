import Accessors.Proofs.Declaration.Extent
import Accessors.Proofs.Declaration.Header

/-!
# Blank lines

A blank line holds no header and closes no interface. So a document may lose its blank lines before
it is searched: the header that is found is the same line, and the body is closed by the same line
(`properties_filter_blank`). Passing over blank lines while reading comes to the same as deleting
them all beforehand.
-/

namespace Accessors.Query

open Declaration Text

/-! ## What a blank line is not -/

theorem notMem_of_isBlankText {line : String} (h : isBlankText line.toList = true) {c : Char}
    (hc : Unicode.isBlank c = false) : c ∉ line.toList := by
  intro hmem
  have hblank : Unicode.isBlank c = true := List.all_eq_true.1 h c hmem
  rw [hc] at hblank
  cases hblank

theorem occursIn_of_isBlankText {line : String} (h : isBlankText line.toList = true)
    (interface : String) : Header.occursIn interface line = false := by
  refine Bool.eq_false_iff.2 fun hoccurs => ?_
  obtain ⟨before, parameters, blank, after, hline, -, -⟩ := Header.occursIn_iff.1 hoccurs
  refine notMem_of_isBlankText h (c := 'i') (by decide) ?_
  rw [hline, Header.opening_eq_cons]
  simp

theorem isClosing_of_isBlankText {line : String} (h : isBlankText line.toList = true) :
    isClosing line = false := by
  have hbrace : '\x7d' ∉ line.toList := notMem_of_isBlankText h (by decide)
  refine Bool.eq_false_iff.2 fun hclosing => hbrace ?_
  rcases isClosing_iff.1 hclosing with rfl | rfl
  · decide
  · decide

/-! ## Deleting lines -/

theorem takeWhile_filter {keep : String → Bool}
    (hkeep : ∀ line, keep line = false → isClosing line = false) (body : List String) :
    (body.filter keep).takeWhile (!isClosing ·) = (body.takeWhile (!isClosing ·)).filter keep := by
  induction body with
  | nil => rfl
  | cons line body ih =>
    cases hline : keep line with
    | true =>
      rw [List.filter_cons_of_pos hline]
      cases hclosing : isClosing line with
      | true => simp [hclosing]
      | false => simp [hclosing, hline, ih]
    | false =>
      have hclosing : isClosing line = false := hkeep line hline
      simp [hclosing, hline, ih]

theorem fields_filter_blank (naming : Naming) (body : List String) :
    fields { naming, skipBlank := true } body =
      fields { naming, skipBlank := false } (body.filter fun line => !isBlankText line.toList) := by
  have hkeep : ∀ line : String, (!isBlankText line.toList) = false → isClosing line = false := by
    intro line hline
    exact isClosing_of_isBlankText (by simpa using hline)
  rw [fields, fields, takeWhile_filter hkeep, filter_isField, filter_isField]
  rfl

/-- **Passing over blank lines is deleting them**, in the whole document and before the search. -/
theorem properties_filter_blank (naming : Naming) (lines : List String) (declaration : String) :
    properties { naming, skipBlank := true } lines declaration =
      properties { naming, skipBlank := false }
        (lines.filter fun line => !isBlankText line.toList) declaration := by
  -- what is looked for does not depend on how blank lines are read
  have hinterface : interface { naming, skipBlank := true } declaration =
      interface { naming, skipBlank := false } declaration := rfl
  cases hlocate : locate? (interface { naming, skipBlank := true } declaration) lines with
  | none =>
    have hnone := locate?_eq_none_iff.1 hlocate
    rw [properties_of_no_header hnone, properties_of_no_header]
    intro line hline
    rw [← hinterface]
    exact hnone line (List.mem_of_mem_filter hline)
  | some found =>
    obtain ⟨before, header, rfl, -, hbefore, hheader⟩ := locate?_eq_some_iff.1 hlocate
    have hkept : (!isBlankText header.toList) = true := by
      by_contra hblank
      rw [occursIn_of_isBlankText (by simpa using hblank)] at hheader
      cases hheader
    have hfront : ∀ line ∈ before.filter fun line => !isBlankText line.toList,
        Header.occursIn (interface { naming, skipBlank := true } declaration) line = false := by
      intro line hline
      exact hbefore line (List.mem_of_mem_filter hline)
    rw [properties_eq_fields hbefore hheader, fields_filter_blank]
    rw [hinterface] at hfront hheader
    rw [List.filter_append, List.filter_cons, if_pos hkept, properties_eq_fields hfront hheader]

end Accessors.Query
