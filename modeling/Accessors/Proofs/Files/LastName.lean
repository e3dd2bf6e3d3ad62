import Accessors.Files.Path
import Accessors.Proofs.Text.Pieces

/-!
# The last name of a path

A slash parts the names in front of it from those behind it (`properParts_append`). So the last name
of a path is the one that it `EndsIn`: in front of it stands a directory or nothing, and behind it
only slashes and dots that lead nowhere (`getLast?_properParts_iff`).
-/

namespace Accessors.Files.Path

/-- Whether a text behind a name leads nowhere: slashes, each with a dot behind it or without. -/
inductive Trails : String → Prop
  | nothing : Trails ""
  | slash {rest : String} (h : Trails rest) : Trails ("/" ++ rest)
  | here {rest : String} (h : Trails rest) : Trails ("/." ++ rest)

/-- Whether a path is a name with a directory or nothing in front of it, and with nothing behind it
that leads on. -/
def EndsIn (path name : String) : Prop :=
  ∃ directory trail, (directory = "" ∨ endsInSlash directory = true) ∧ Trails trail ∧
    path = directory ++ name ++ trail

/-- Whether a text is a part of a path that does not stay where it is. -/
structure IsProperPart (part : String) : Prop where
  ne_empty : part ≠ ""
  notMem_slash : '/' ∉ part.toList
  ne_here : part ≠ "."

theorem Trails.append {front rest : String} (hfront : Trails front) (hrest : Trails rest) :
    Trails (front ++ rest) := by
  induction hfront with
  | nothing => rwa [String.empty_append]
  | slash _ ih =>
    rw [String.append_assoc]
    exact .slash ih
  | here _ ih =>
    rw [String.append_assoc]
    exact .here ih

theorem properParts_append (front rest : String) :
    properParts (front ++ "/" ++ rest) = properParts front ++ properParts rest := by
  have hlist : (front ++ "/" ++ rest).toList = front.toList ++ '/' :: rest.toList := by
    simp [String.toList_append]
  rw [properParts, properParts, properParts, parts, parts, parts, hlist, Text.pieces_append,
    List.filter_append, List.map_append, List.filter_append]

theorem properParts_of_isProperPart {part : String} (h : IsProperPart part) :
    properParts part = [part] := by
  have hne : part.toList ≠ [] := fun hnil => h.ne_empty (String.toList_eq_nil_iff.1 hnil)
  rw [properParts, parts, Text.pieces_of_notMem h.notMem_slash]
  simp [hne, h.ne_here]

theorem Trails.properParts_append {trail : String} (h : Trails trail) (front : String) :
    properParts (front ++ trail) = properParts front := by
  induction h generalizing front with
  | nothing => rw [String.append_empty]
  | slash _ ih =>
    have hempty := ih ""
    rw [String.empty_append] at hempty
    rw [← String.append_assoc, Path.properParts_append, hempty]
    exact List.append_nil _
  | @here rest _ ih =>
    have hassoc : front ++ ("/." ++ rest) = front ++ "/" ++ ("." ++ rest) := by
      rw [show "/." = "/" ++ "." from rfl]
      simp only [String.append_assoc]
    rw [hassoc, Path.properParts_append, ih "."]
    exact List.append_nil _

theorem properParts_of_directory {directory : String}
    (h : directory = "" ∨ endsInSlash directory = true) (rest : String) :
    properParts (directory ++ rest) = properParts directory ++ properParts rest := by
  rcases h with rfl | h
  · rw [String.empty_append]
    rfl
  · obtain ⟨front, hfront⟩ := List.getLast?_eq_some_iff.1 (of_decide_eq_true h)
    have hdirectory : directory = String.ofList front ++ ("/" ++ "") := by
      rw [← String.toList_inj, hfront]
      simp [String.toList_append]
    have hends := (Trails.slash .nothing).properParts_append (String.ofList front)
    rw [hdirectory, hends, String.append_empty, properParts_append]

theorem EndsIn.getLast?_properParts {path name : String} (h : EndsIn path name)
    (hname : IsProperPart name) : (properParts path).getLast? = some name := by
  obtain ⟨directory, trail, hdirectory, htrail, rfl⟩ := h
  rw [htrail.properParts_append, properParts_of_directory hdirectory,
    properParts_of_isProperPart hname]
  exact List.getLast?_concat

theorem exists_lastSlash (path : String) :
    '/' ∉ path.toList ∨
      ∃ front last : String, path = front ++ "/" ++ last ∧ '/' ∉ last.toList := by
  by_cases hmem : '/' ∈ path.toList.reverse
  · obtain ⟨last, front, hsplit, hlast⟩ := List.eq_append_cons_of_mem hmem
    refine .inr ⟨String.ofList front.reverse, String.ofList last.reverse, ?_, by simpa using hlast⟩
    rw [← String.toList_inj, ← List.reverse_inj, hsplit]
    simp [String.toList_append]
  · exact .inl (by simpa using hmem)

theorem isProperPart_or {last : String} (h : '/' ∉ last.toList) :
    IsProperPart last ∨ Trails ("/" ++ last) := by
  by_cases hempty : last = ""
  · subst hempty
    exact .inr (.slash .nothing)
  · by_cases hhere : last = "."
    · subst hhere
      exact .inr (.here .nothing)
    · exact .inl ⟨hempty, h, hhere⟩

theorem endsIn_of_getLast?_properParts {path name : String}
    (h : (properParts path).getLast? = some name) : EndsIn path name ∧ IsProperPart name := by
  -- a last part that leads nowhere goes to the trail, and the name is in front of it
  induction hsize : path.length using Nat.strongRecOn generalizing path with
  | ind size ih =>
    obtain hslash | ⟨front, last, rfl, hlast⟩ := exists_lastSlash path
    · rcases isProperPart_or hslash with hproper | htrail
      · rw [properParts_of_isProperPart hproper] at h
        obtain rfl : path = name := Option.some.inj h
        exact ⟨⟨"", "", .inl rfl, .nothing, by simp⟩, hproper⟩
      · have hparts := htrail.properParts_append ""
        rw [String.empty_append, show "/" ++ path = "" ++ "/" ++ path from rfl,
          properParts_append] at hparts
        have hnil : properParts path = [] := hparts
        rw [hnil] at h
        cases h
    · rcases isProperPart_or hlast with hproper | htrail
      · rw [properParts_append, properParts_of_isProperPart hproper, List.getLast?_concat] at h
        obtain rfl : last = name := Option.some.inj h
        refine ⟨⟨front ++ "/", "", .inr ?_, .nothing, by simp⟩, hproper⟩
        simp [endsInSlash, String.toList_append]
      · rw [String.append_assoc, htrail.properParts_append] at h
        have hsmall : front.length < size := by
          have hone : "/".length = 1 := rfl
          rw [← hsize, String.length_append, String.length_append]
          omega
        obtain ⟨⟨directory, trail, hdirectory, htrail', hfront⟩, hname⟩ := ih _ hsmall h rfl
        refine ⟨⟨directory, trail ++ ("/" ++ last), hdirectory, htrail'.append htrail, ?_⟩, hname⟩
        rw [hfront]
        simp only [String.append_assoc]

/-- **The last name of a path** is what the path ends in. -/
theorem getLast?_properParts_iff {path name : String} :
    (properParts path).getLast? = some name ↔ EndsIn path name ∧ IsProperPart name :=
  ⟨endsIn_of_getLast?_properParts, fun h => h.1.getLast?_properParts h.2⟩

end Accessors.Files.Path
