import Accessors.Declaration.Query
import Accessors.Proofs.Text.Lines

/-!
# Properties on one line

The name and the type of a property are what is left of the line that declares it when characters
are taken away (`Property.name_sublist`, `Property.type_sublist`). A line of a document has no line
feed in it, and so neither has a property that is found there
(`Query.isOneLine_of_mem_properties`).
-/

namespace Accessors

open Text

/-! ## What is left of a line -/

theorem dropTrailing_sublist (p : Char → Bool) (cs : List Char) :
    (dropTrailing p cs).Sublist cs := by
  have h := (List.dropWhile_sublist p (l := cs.reverse)).reverse
  rwa [List.reverse_reverse] at h

theorem trim_sublist (cs : List Char) : (trim cs).Sublist cs :=
  (dropTrailing_sublist _ _).trans (List.dropWhile_sublist _)

namespace Property

theorem splitColon_sublist (cs : List Char) :
    (splitColon cs).1.Sublist cs ∧ (splitColon cs).2.Sublist cs := by
  rw [splitColon]
  split
  · exact ⟨List.nil_sublist cs, List.Sublist.refl cs⟩
  · rename_i c rest hdrop
    refine ⟨List.takeWhile_sublist _, ?_⟩
    have hsublist := List.dropWhile_sublist (· ≠ ':') (l := cs)
    rw [hdrop] at hsublist
    exact (List.sublist_cons_self c rest).trans hsublist

theorem dropQuestionMark_sublist (cs : List Char) : (dropQuestionMark cs).Sublist cs := by
  rw [dropQuestionMark]
  split
  · exact List.dropLast_sublist cs
  · exact List.Sublist.refl cs

theorem name_sublist (line : String) : (ofLine line).name.toList.Sublist line.toList := by
  rw [toList_name_ofLine, nameOf]
  exact ((dropQuestionMark_sublist _).trans (trim_sublist _)).trans (splitColon_sublist _).1

theorem type_sublist (line : String) : (ofLine line).type.toList.Sublist line.toList := by
  rw [toList_type_ofLine, typeOf]
  have hterminators :=
    (dropTrailing_sublist isTerminator _).trans (trim_sublist (splitColon line.toList).2)
  have htrim := (dropTrailing_sublist Unicode.isBlank _).trans hterminators
  exact htrim.trans (splitColon_sublist _).2

/-- Whether neither the name nor the type of a property has a line feed in it. -/
structure IsOneLine (property : Property) : Prop where
  name : '\n' ∉ property.name.toList
  type : '\n' ∉ property.type.toList

theorem isOneLine_ofLine {line : String} (h : '\n' ∉ line.toList) : (ofLine line).IsOneLine where
  name := fun hmem => h ((name_sublist line).subset hmem)
  type := fun hmem => h ((type_sublist line).subset hmem)

end Property

/-! ## What is found -/

namespace Query

variable {query : Query} {declaration : String} {property : Property}

theorem exists_line_of_mem_properties {lines : List String}
    (h : property ∈ query.properties lines declaration) :
    ∃ line ∈ lines, property = Property.ofLine line := by
  rw [properties] at h
  split at h
  · simp at h
  · rename_i index body hlocate
    obtain ⟨header, hdrop, -⟩ := locate?_eq_some hlocate
    obtain ⟨line, hline, rfl⟩ := List.mem_map.1 h
    have hbody : line ∈ body :=
      (List.takeWhile_sublist _).subset (List.mem_filter.1 hline).1
    refine ⟨line, List.mem_of_mem_drop (i := index) ?_, rfl⟩
    rw [hdrop]
    exact List.mem_cons_of_mem header hbody

theorem isOneLine_of_mem_properties {text : String}
    (h : property ∈ query.properties (linesOf text) declaration) : property.IsOneLine := by
  obtain ⟨line, hline, rfl⟩ := exists_line_of_mem_properties h
  exact Property.isOneLine_ofLine (notMem_of_mem_linesOf hline)

end Query

end Accessors
