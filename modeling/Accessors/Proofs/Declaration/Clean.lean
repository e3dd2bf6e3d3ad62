import Accessors.Declaration.Property
import Accessors.Proofs.Text.Trim

/-!
# Clean properties

A property is clean if white space surrounds neither its name nor its type and no terminator ends
its type. A field line gives a clean property unless one of two things stands apart in it: the
question mark from the name (`MarkApart`), or terminators from one another
(`TerminatorsApart`). Each character class is taken off once, and in these two cases another one
was hidden behind it. The condition is exact for the name and for the type (`isClean_ofLine_iff`).
-/

namespace Accessors.Property

open Text

structure IsClean (property : Property) : Prop where
  name : IsTrimmed property.name.toList
  type : IsTrimmed property.type.toList
  type_open : ∀ c ∈ property.type.toList.getLast?, isTerminator c = false

/-- Whether a text ends in a question mark with white space between it and what it belongs to. -/
def MarkApart (cs : List Char) : Prop :=
  ∃ name blank trail, cs = name ++ blank :: '?' :: trail ∧ isBlankText name = false ∧
    Unicode.isBlank blank = true ∧ isBlankText trail = true

/-- Whether a text ends in terminators with white space between some of them. -/
def TerminatorsApart (cs : List Char) : Prop :=
  ∃ type terminator space terminators trail,
    cs = type ++ terminator :: (space ++ (terminators ++ trail)) ∧ isTerminator terminator = true ∧
      space ≠ [] ∧ isBlankText space = true ∧
      terminators ≠ [] ∧ terminators.all isTerminator = true ∧ isBlankText trail = true

theorem isBlank_of_isTerminator {c : Char} (h : isTerminator c = true) :
    Unicode.isBlank c = false := by
  obtain rfl | rfl : c = ',' ∨ c = ';' := by simpa [isTerminator] using h
  · decide
  · decide

theorem isTerminator_of_isBlank {c : Char} (h : Unicode.isBlank c = true) :
    isTerminator c = false := by
  refine Bool.eq_false_iff.2 fun hc => ?_
  rw [isBlank_of_isTerminator hc] at h
  exact Bool.false_ne_true h

/-! ## The name -/

theorem dropQuestionMark_isPrefix (cs : List Char) : dropQuestionMark cs <+: cs := by
  rw [dropQuestionMark]
  split
  · exact List.dropLast_prefix cs
  · exact List.prefix_rfl

theorem head?_nameOf (cs : List Char) : ∀ c ∈ (nameOf cs).head?, Unicode.isBlank c = false :=
  head?_of_isPrefix (dropQuestionMark_isPrefix _) (isTrimmed_trim cs).head

theorem exists_nameOf_eq {cs : List Char} (h : MarkApart cs) :
    ∃ name blank, nameOf cs = name ++ [blank] ∧ Unicode.isBlank blank = true := by
  obtain ⟨name, blank, trail, rfl, hname, hblank, htrail⟩ := h
  have hmark : Unicode.isBlank '?' = false := by decide
  have htrim : trim (name ++ blank :: '?' :: trail) =
      (name ++ [blank]).dropWhile Unicode.isBlank ++ ['?'] := by
    have hfront : name ++ blank :: '?' :: trail = (name ++ [blank]) ++ '?' :: ([] ++ trail) := by
      simp
    rw [hfront, trim_append_cons hmark (by simpa using hmark) htrail]
  have hdrop : (name ++ [blank]).dropWhile Unicode.isBlank =
      name.dropWhile Unicode.isBlank ++ [blank] := by
    rw [List.dropWhile_append, if_neg]
    intro hnil
    have hall := List.dropWhile_eq_nil_iff.1 (List.isEmpty_iff.1 hnil)
    rw [isBlankText, List.all_eq_true.2 hall] at hname
    cases hname
  refine ⟨name.dropWhile Unicode.isBlank, blank, ?_, hblank⟩
  rw [nameOf, htrim, hdrop, dropQuestionMark, List.getLast?_concat, if_pos rfl,
    List.dropLast_concat]

theorem markApart_of_nameOf_eq {cs name : List Char} {blank : Char}
    (h : nameOf cs = name ++ [blank]) (hblank : Unicode.isBlank blank = true) : MarkApart cs := by
  have htrimmed := isTrimmed_trim cs
  have htrim : trim cs = name ++ [blank] ++ ['?'] := by
    rw [nameOf, dropQuestionMark] at h
    split at h
    · rename_i hlast
      obtain ⟨front, hfront⟩ := List.getLast?_eq_some_iff.1 hlast
      rw [hfront, List.dropLast_concat] at h
      rw [hfront, h]
    · -- without a mark the name is all that trimming leaves
      rw [h] at htrimmed
      exact absurd htrimmed (not_isTrimmed_concat name hblank)
  rw [htrim] at htrimmed
  obtain ⟨lead, trail, hcs, -, htrail⟩ := exists_trim_append cs
  refine ⟨lead ++ name, blank, trail, ?_, ?_, hblank, htrail⟩
  · rw [hcs, htrim]
    simp
  · cases name with
    | nil =>
      rw [htrimmed.head blank rfl] at hblank
      cases hblank
    | cons c name =>
      have hc : Unicode.isBlank c = false := htrimmed.head c rfl
      simp [isBlankText, hc]

theorem isTrimmed_nameOf_iff (cs : List Char) : IsTrimmed (nameOf cs) ↔ ¬ MarkApart cs := by
  constructor
  · intro htrimmed hapart
    obtain ⟨name, blank, hname, hblank⟩ := exists_nameOf_eq hapart
    rw [hname] at htrimmed
    exact not_isTrimmed_concat name hblank htrimmed
  · intro hapart
    refine ⟨head?_nameOf cs, fun c hc => Bool.eq_false_iff.2 fun hblank => hapart ?_⟩
    obtain ⟨name, hname⟩ := List.getLast?_eq_some_iff.1 hc
    exact markApart_of_nameOf_eq hname hblank

/-! ## The type -/

theorem isTrimmed_typeOf (cs : List Char) : IsTrimmed (typeOf cs) where
  head := head?_of_isPrefix ((dropTrailing_isPrefix _ _).trans (dropTrailing_isPrefix _ _))
    (isTrimmed_trim cs).head
  last := getLast?_dropTrailing _ _

theorem exists_typeOf_eq {cs : List Char} (h : TerminatorsApart cs) :
    ∃ type terminator, typeOf cs = type ++ [terminator] ∧ isTerminator terminator = true := by
  obtain ⟨type, terminator, space, terminators, trail, rfl, hterminator, hspace, hspaces,
    hne, hterminators, htrail⟩ := h
  have hblank := isBlank_of_isTerminator hterminator
  rw [isBlankText, List.all_eq_true] at hspaces
  rw [List.all_eq_true] at hterminators
  have hend : ∀ c ∈ (terminator :: (space ++ terminators)).getLast?, Unicode.isBlank c = false := by
    rw [← List.cons_append]
    exact forall_getLast?_append hne fun c hc => isBlank_of_isTerminator (hterminators c hc)
  have hopen : ∀ c ∈ ((type.dropWhile Unicode.isBlank ++ [terminator]) ++ space).getLast?,
      isTerminator c = false :=
    forall_getLast?_append hspace fun c hc => isTerminator_of_isBlank (hspaces c hc)
  have htrim : trim (type ++ terminator :: (space ++ (terminators ++ trail))) =
      ((type.dropWhile Unicode.isBlank ++ [terminator]) ++ space) ++ terminators := by
    rw [← List.append_assoc, trim_append_cons hblank hend htrail]
    simp
  refine ⟨type.dropWhile Unicode.isBlank, terminator, ?_, hterminator⟩
  rw [typeOf, htrim, dropTrailing_append hopen hterminators,
    dropTrailing_append (by simpa using hblank) hspaces]

theorem terminatorsApart_of_typeOf_eq {cs type : List Char} {terminator : Char}
    (h : typeOf cs = type ++ [terminator]) (hterminator : isTerminator terminator = true) :
    TerminatorsApart cs := by
  obtain ⟨lead, trail, hcs, -, htrail⟩ := exists_trim_append cs
  obtain ⟨terminators, htrim, hterminators⟩ := exists_dropTrailing_append isTerminator (trim cs)
  obtain ⟨space, hrest, hspaces⟩ :=
    exists_dropTrailing_append Unicode.isBlank (dropTrailing isTerminator (trim cs))
  rw [← typeOf, h] at hrest
  have hspace : space ≠ [] := by
    -- otherwise the terminator would have been dropped with the others
    rintro rfl
    have hlast := getLast?_dropTrailing isTerminator (trim cs) terminator (by simp [hrest])
    rw [hterminator] at hlast
    cases hlast
  refine ⟨lead ++ type, terminator, space, terminators, trail, ?_, hterminator, hspace, hspaces, ?_,
    hterminators, htrail⟩
  · rw [hcs, htrim, hrest]
    simp
  · -- otherwise the white space would have been trimmed off
    rintro rfl
    obtain ⟨bs, b, rfl⟩ := (List.eq_nil_or_concat space).resolve_left hspace
    have htrimmed := isTrimmed_trim cs
    rw [htrim, hrest, List.append_nil, List.concat_eq_append, ← List.append_assoc] at htrimmed
    exact not_isTrimmed_concat _ (List.all_eq_true.1 hspaces b (by simp)) htrimmed

theorem type_open_iff (cs : List Char) :
    (∀ c ∈ (typeOf cs).getLast?, isTerminator c = false) ↔ ¬ TerminatorsApart cs := by
  constructor
  · intro hopen hapart
    obtain ⟨type, terminator, htype, hterminator⟩ := exists_typeOf_eq hapart
    rw [hopen terminator (by simp [htype])] at hterminator
    cases hterminator
  · intro hapart c hc
    refine Bool.eq_false_iff.2 fun hterminator => hapart ?_
    obtain ⟨type, htype⟩ := List.getLast?_eq_some_iff.1 hc
    exact terminatorsApart_of_typeOf_eq htype hterminator

/-! ## The line -/

/-- **A field line gives a clean property** unless its question mark or its terminators stand apart.
White space never leads the name, and it never surrounds the type. -/
theorem isClean_ofLine_iff (line : String) :
    ((ofLine line).IsClean ↔ ¬ MarkApart (splitColon line.toList).1 ∧
        ¬ TerminatorsApart (splitColon line.toList).2) ∧
      (IsTrimmed (ofLine line).name.toList ↔ ¬ MarkApart (splitColon line.toList).1) ∧
      (∀ c ∈ (ofLine line).name.toList.head?, Unicode.isBlank c = false) ∧
      IsTrimmed (ofLine line).type.toList ∧
      ((∀ c ∈ (ofLine line).type.toList.getLast?, isTerminator c = false) ↔
        ¬ TerminatorsApart (splitColon line.toList).2) := by
  have hname := isTrimmed_nameOf_iff (splitColon line.toList).1
  have htype := isTrimmed_typeOf (splitColon line.toList).2
  have hopen := type_open_iff (splitColon line.toList).2
  have hhead := head?_nameOf (splitColon line.toList).1
  rw [← toList_name_ofLine] at hname hhead
  rw [← toList_type_ofLine] at htype hopen
  refine ⟨⟨fun h => ?_, fun h => ?_⟩, hname, hhead, htype, hopen⟩
  · exact ⟨hname.1 h.name, hopen.1 h.type_open⟩
  · exact ⟨hname.2 h.1, htype, hopen.2 h.2⟩

/-- **A question mark or a terminator behind white space** is enough for a property that is not
clean. -/
theorem not_isClean_ofLine_apart :
    ofLine "  name ?: string;" = ⟨"name ", "string"⟩ ∧
      ofLine "  id: number; ," = ⟨"id", "number;"⟩ ∧
      ¬ (ofLine "  name ?: string;").IsClean ∧ ¬ (ofLine "  id: number; ,").IsClean := by
  have hmark : ofLine "  name ?: string;" = ⟨"name ", "string"⟩ := by decide +kernel
  have hterminators : ofLine "  id: number; ," = ⟨"id", "number;"⟩ := by decide +kernel
  refine ⟨hmark, hterminators, fun h => ?_, fun h => ?_⟩
  · rw [hmark] at h
    exact absurd (h.name.last ' ' rfl) (by decide)
  · rw [hterminators] at h
    exact absurd (h.type_open ';' rfl) (by decide)

end Accessors.Property
