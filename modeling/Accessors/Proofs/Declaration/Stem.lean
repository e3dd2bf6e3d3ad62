import Accessors.Declaration.Name
import Accessors.Proofs.Files.LastName

/-!
# What a path is named for

Of the name that a path ends in, the last dot and what is behind it are left out, unless the name
starts with this dot (`stem_append`, `stem_of_notMem`, `stem_dot_append`). So there are three ways
in which a path `IsNamedFor` a declaration, and a path that is written in none of them has no
declaration (`name?_eq_some_iff`).
-/

namespace Accessors.Declaration

open Files Path

/-! ## Extensions -/

theorem dropWhile_reverse_append {rest : List Char} (h : '.' ∉ rest) (front : List Char) :
    (front ++ rest).reverse.dropWhile (· ≠ '.') = front.reverse.dropWhile (· ≠ '.') := by
  have hrest : '.' ∉ rest.reverse := by simpa using h
  rw [List.reverse_append, List.dropWhile_append_of_pos (Text.decide_ne_of_notMem hrest)]

theorem stem_append {front extension : String} (hne : front ≠ "") (h : '.' ∉ extension.toList) :
    String.ofList (stem (front ++ "." ++ extension).toList) = front := by
  have hne' : front.toList.reverse ≠ [] := by
    rwa [Ne, List.reverse_eq_nil_iff, String.toList_eq_nil_iff]
  obtain ⟨c, cs, hfront⟩ := List.exists_cons_of_ne_nil hne'
  have hdrop : (front ++ "." ++ extension).toList.reverse.dropWhile (· ≠ '.') = '.' :: c :: cs := by
    rw [String.toList_append, dropWhile_reverse_append h, String.toList_append,
      List.reverse_append, hfront]
    simp
  rw [stem, hdrop]
  simp only
  rw [← hfront, List.reverse_reverse, String.ofList_toList]

theorem stem_of_notMem {name : String} (h : '.' ∉ name.toList) :
    String.ofList (stem name.toList) = name := by
  have hdrop := dropWhile_reverse_append h []
  rw [List.nil_append] at hdrop
  rw [stem, hdrop]
  exact String.ofList_toList

theorem stem_dot_append {name : String} (h : '.' ∉ name.toList) :
    String.ofList (stem ("." ++ name).toList) = "." ++ name := by
  have hdrop : ("." ++ name).toList.reverse.dropWhile (· ≠ '.') = ['.'] := by
    rw [String.toList_append, dropWhile_reverse_append h]
    rfl
  rw [stem, hdrop]
  exact String.ofList_toList

/-! ## Paths that are named for a declaration -/

/-- Which declaration a path is named for, by the way in which its name is written. -/
inductive IsNamedFor (path : String) : String → Prop
  /-- The last dot of a name and what is behind it are its extension, which may be empty. -/
  | extended {stem extension : String} (hpath : EndsIn path (stem ++ "." ++ extension))
      (hstem : stem ≠ "") (hslash : '/' ∉ stem.toList) (hslash' : '/' ∉ extension.toList)
      (hdot : '.' ∉ extension.toList) (hup : (stem, extension) ≠ (".", "")) :
      IsNamedFor path stem
  | plain {name : String} (hpath : EndsIn path name) (hname : name ≠ "")
      (hslash : '/' ∉ name.toList) (hdot : '.' ∉ name.toList) : IsNamedFor path name
  /-- A dot at the start of a name begins no extension. -/
  | hidden {name : String} (hpath : EndsIn path ("." ++ name)) (hname : name ≠ "")
      (hslash : '/' ∉ name.toList) (hdot : '.' ∉ name.toList) : IsNamedFor path ("." ++ name)

theorem fileName?_eq_some_iff {path name : String} :
    fileName? path = some name ↔ EndsIn path name ∧ IsProperPart name ∧ name ≠ ".." := by
  rw [← and_assoc, ← getLast?_properParts_iff, fileName?]
  split
  · rename_i hup
    refine iff_of_false (by simp) ?_
    rintro ⟨hname, hne⟩
    exact hne (Option.some.inj (hname.symm.trans hup))
  · rename_i hup
    refine ⟨fun h => ⟨h, ?_⟩, fun h => h.1⟩
    rintro rfl
    exact hup h

theorem name_cases {name : String} (h : IsProperPart name) :
    '.' ∉ name.toList ∨
      (∃ rest, name = "." ++ rest ∧ rest ≠ "" ∧ '.' ∉ rest.toList) ∨
      ∃ stem extension, name = stem ++ "." ++ extension ∧ stem ≠ "" ∧ '.' ∉ extension.toList := by
  by_cases hmem : '.' ∈ name.toList.reverse
  · obtain ⟨extension, front, hsplit, hdot⟩ := List.eq_append_cons_of_mem hmem
    have hname : name = String.ofList front.reverse ++ "." ++ String.ofList extension.reverse := by
      rw [← String.toList_inj, ← List.reverse_inj, hsplit]
      simp [String.toList_append]
    have hdot' : '.' ∉ (String.ofList extension.reverse).toList := by simpa using hdot
    by_cases hfront : String.ofList front.reverse = ""
    · rw [hfront, String.empty_append] at hname
      refine .inr (.inl ⟨_, hname, fun hempty => h.ne_here ?_, hdot'⟩)
      rw [hname, hempty, String.append_empty]
    · exact .inr (.inr ⟨_, _, hname, hfront, hdot'⟩)
  · exact .inl (by simpa using hmem)

theorem ne_up {stem extension : String} (hstem : stem ≠ "") (hup : (stem, extension) ≠ (".", "")) :
    stem ++ "." ++ extension ≠ ".." := by
  intro h
  have hlist : stem.toList ++ '.' :: extension.toList = ['.', '.'] := by
    have hlist := congrArg String.toList h
    simpa [String.toList_append] using hlist
  obtain ⟨c, cs, hcs⟩ := List.exists_cons_of_ne_nil (mt String.toList_eq_nil_iff.1 hstem)
  rw [hcs, List.cons_append, List.cons.injEq] at hlist
  obtain ⟨rfl, hrest⟩ := hlist
  cases cs with
  | nil =>
    have hempty : extension.toList = [] := by simpa using hrest
    exact hup (Prod.ext (String.toList_inj.1 hcs) (String.toList_eq_nil_iff.1 hempty))
  | cons d ds => simp at hrest

theorem IsNamedFor.exists_name {path declaration : String} (h : IsNamedFor path declaration) :
    ∃ name, (EndsIn path name ∧ IsProperPart name ∧ name ≠ "..") ∧
      String.ofList (stem name.toList) = declaration := by
  cases h with
  | @extended _ extension hpath hstem hslash hslash' hdot hup =>
    refine ⟨_, ⟨hpath, ⟨?_, ?_, ?_⟩, ne_up hstem hup⟩, stem_append hstem hdot⟩
    · simp [String.append_eq_empty_iff]
    · simp [String.toList_append, hslash, hslash']
    · intro hhere
      have hlength := congrArg String.length hhere
      have hpos : declaration.length ≠ 0 := fun hzero => hstem (String.length_eq_zero_iff.1 hzero)
      simp [String.length_append] at hlength
      omega
  | plain hpath hname hslash hdot =>
    refine ⟨_, ⟨hpath, ⟨hname, hslash, ?_⟩, ?_⟩, stem_of_notMem hdot⟩
    · rintro rfl
      simp at hdot
    · rintro rfl
      simp at hdot
  | @hidden name hpath hname hslash hdot =>
    refine ⟨_, ⟨hpath, ⟨?_, ?_, ?_⟩, ?_⟩, stem_dot_append hdot⟩
    · simp [String.append_eq_empty_iff]
    · simpa [String.toList_append] using hslash
    · intro hhere
      have hlist := congrArg String.toList hhere
      exact hname (by simpa [String.toList_append] using hlist)
    · intro hup
      have hlist : name.toList = ['.'] := by
        have hlist := congrArg String.toList hup
        simpa [String.toList_append] using hlist
      exact hdot (by simp [hlist])

theorem IsNamedFor.of_name {path name : String} (hpath : EndsIn path name)
    (hname : IsProperPart name) (hup : name ≠ "..") :
    IsNamedFor path (String.ofList (stem name.toList)) := by
  have hslash := hname.notMem_slash
  obtain hdot | ⟨rest, rfl, hrest, hdot⟩ | ⟨front, extension, rfl, hfront, hdot⟩ := name_cases hname
  · rw [stem_of_notMem hdot]
    exact .plain hpath hname.ne_empty hslash hdot
  · rw [stem_dot_append hdot]
    exact .hidden hpath hrest (fun hmem => hslash (by simp [String.toList_append, hmem])) hdot
  · rw [stem_append hfront hdot]
    refine .extended hpath hfront (fun hmem => hslash (by simp [String.toList_append, hmem]))
      (fun hmem => hslash (by simp [String.toList_append, hmem])) hdot fun heq => hup ?_
    obtain ⟨rfl, rfl⟩ := Prod.mk.inj heq
    rfl

theorem IsNamedFor.isName {path declaration : String} (h : IsNamedFor path declaration) :
    declaration ≠ "" ∧ '/' ∉ declaration.toList := by
  cases h with
  | extended _ hstem hslash _ _ _ => exact ⟨hstem, hslash⟩
  | plain _ hname hslash _ => exact ⟨hname, hslash⟩
  | hidden _ _ hslash _ =>
    refine ⟨?_, ?_⟩
    · simp [String.append_eq_empty_iff]
    · simpa [String.toList_append] using hslash

/-- **A path is named for the name that it ends in, without its final extension**, whatever
directory is in front of the name and whatever slashes and dots trail behind it. No other path has a
declaration, and a declaration is never empty and has no slash. -/
theorem name?_eq_some_iff (path declaration : String) :
    (name? path = some declaration ↔ IsNamedFor path declaration) ∧
      (name? path = some declaration → declaration ≠ "" ∧ '/' ∉ declaration.toList) := by
  have hiff : name? path = some declaration ↔ IsNamedFor path declaration := by
    rw [name?, Option.map_eq_some_iff]
    constructor
    · rintro ⟨name, hname, rfl⟩
      obtain ⟨hpath, hproper, hup⟩ := fileName?_eq_some_iff.1 hname
      exact .of_name hpath hproper hup
    · intro h
      obtain ⟨name, hname, hstem⟩ := h.exists_name
      exact ⟨name, fileName?_eq_some_iff.2 hname, hstem⟩
  exact ⟨hiff, fun hname => (hiff.1 hname).isName⟩

/-- A name that starts with dots and ends in one, with slashes and dots around it. -/
theorem name?_eq_some_iff_dots :
    IsNamedFor "../src//..a././/" "..a" ∧ name? "../src//..a././/" = some "..a" ∧
      "..a" ≠ "" ∧ '/' ∉ "..a".toList := by
  have hpath : EndsIn "../src//..a././/" ("..a" ++ "." ++ "") :=
    ⟨"../src//", "/.//", .inr (by decide), .here (.slash (.slash .nothing)), by decide⟩
  have hnamed : IsNamedFor "../src//..a././/" "..a" :=
    .extended hpath (by decide) (by decide) (by decide) (by decide) (by decide)
  obtain ⟨hiff, hname⟩ := name?_eq_some_iff "../src//..a././/" "..a"
  exact ⟨hnamed, hiff.2 hnamed, hname (hiff.2 hnamed)⟩

end Accessors.Declaration
