import Accessors.Declaration.Name
import Accessors.Proofs.Files.Kept

/-!
# Paths of files end in a name

A path that names no declaration ends in a step that stays or goes up, whatever comes before
(`exists_steps_of_fileName?`). Such a step leads to a directory (`lookup?_of_last_step`). So a file that
can be read is named for a declaration (`name?_of_readText?`).
-/

namespace Accessors

/-! ## The last step of a path -/

namespace Files.Path

theorem eq_separator_of_pieces {separator : Char} {cs : List Char}
    (h : ∀ piece ∈ Text.pieces separator cs, piece = []) : ∀ c ∈ cs, c = separator := by
  induction cs with
  | nil => simp
  | cons c cs ih =>
    rw [Text.pieces] at h
    by_cases hc : c = separator
    · rw [if_pos hc] at h
      have hrest := ih fun piece hpiece => h piece (List.mem_cons_of_mem _ hpiece)
      intro d hd
      rcases List.mem_cons.1 hd with rfl | hd
      · exact hc
      · exact hrest d hd
    · rw [if_neg hc] at h
      -- the first piece starts with this character
      split at h
      · cases h [c] (by simp)
      · rename_i piece pieces _
        cases h (c :: piece) (by simp)

theorem endsInSlash_of_parts {path : String} (hne : path ≠ "") (h : parts path = []) :
    endsInSlash path = true := by
  have hpieces : ∀ piece ∈ Text.pieces '/' path.toList, piece = [] := by
    rw [parts, List.map_eq_nil_iff, List.filter_eq_nil_iff] at h
    intro piece hpiece
    simpa using h piece hpiece
  have hslash := eq_separator_of_pieces hpieces
  rcases List.eq_nil_or_concat' path.toList with hnil | ⟨front, last, hlast⟩
  · exact absurd (String.toList_eq_nil_iff.1 hnil) hne
  · have hlast' : last = '/' := hslash last (by simp [hlast])
    rw [endsInSlash, hlast, hlast']
    simp

theorem exists_steps_of_fileName? {path : String} (hne : path ≠ "")
    (h : Declaration.fileName? path = none) :
    ∃ front last, steps path = front ++ [last] ∧
      (last = "." ∨ last = directoryStep ∨ last = "..") := by
  by_cases hslash : endsInSlash path = true
  · exact ⟨parts path, directoryStep, by rw [steps, if_pos hslash], .inr (.inl rfl)⟩
  · rcases List.eq_nil_or_concat' (parts path) with hparts | ⟨front, last, hparts⟩
    · exact absurd (endsInSlash_of_parts hne hparts) hslash
    · refine ⟨front, last, by rw [steps, if_neg hslash, List.append_nil, hparts], ?_⟩
      by_cases hdot : last = "."
      · exact .inl hdot
      · have hproper : (properParts path).getLast? = some last := by
          rw [properParts, hparts, List.filter_append]
          simp [hdot]
        rw [Declaration.fileName?, hproper] at h
        split at h
        · rename_i hup
          exact .inr (.inr (Option.some.inj hup))
        · cases h

end Files.Path

/-! ## Where that step leads -/

namespace Files.Tree

variable {tree : Tree}

theorem Reached.isDirectory_dropLast {location : Location} (h : tree.Reached location)
    (hdir : tree.isDirectory location = true) : tree.isDirectory location.dropLast = true := by
  cases h with
  | root => exact hdir
  | name _ hparent _ => rwa [List.dropLast_concat]

theorem lookup?_of_last_step {links : Nat} {here location : Location} {front : List String}
    {last : String} (h : tree.Leads links here (front ++ [last]) (.occupied location))
    (hhere : tree.Reached here) (hlast : last = "." ∨ last = Path.directoryStep ∨ last = "..") :
    tree.lookup? location = some .directory := by
  obtain ⟨left, directory, hfront, hstep⟩ := h.of_concat
  have hreached : tree.Reached directory := hfront.reached hhere
  have hname : ¬ IsName last := by
    intro hname
    rcases hlast with rfl | rfl | rfl
    · exact hname.not_here rfl
    · exact hname.not_slash rfl
    · exact hname.not_up rfl
  rw [← isDirectory_iff]
  cases hstep with
  | direct hway =>
    cases hway with
    | stay hdir _ hway =>
      cases hway
      exact hdir
    | up hdir hway =>
      cases hway
      exact hreached.isDirectory_dropLast hdir
    | enter _ hname' => exact absurd hname' hname
  | through hway _ =>
    cases hway with
    | stay _ _ hway => cases hway
    | up _ hway => cases hway
    | link _ hname' => exact absurd hname' hname
    | enter _ hname' => exact absurd hname' hname

end Files.Tree

namespace Declaration

open Files Tree

/-- **A file that can be read is named for a declaration.** -/
theorem name?_of_readText? {tree : Tree} {path text : String}
    (hread : tree.readText? path = .ok text)
    (hhome : Path.isAbsolute path = true ∨ tree.Reached tree.workingDirectory) :
    name? path ≠ none := by
  obtain ⟨location, mode, hresolve, hentry, -⟩ := readText?_eq_ok_iff.1 hread
  obtain ⟨hcheck, hleads⟩ := resolve?_eq_ok_iff.1 hresolve
  intro hname
  rw [name?, Option.map_eq_none_iff] at hname
  have hne : path ≠ "" := by
    rintro rfl
    cases hcheck
  obtain ⟨front, last, hsteps, hlast⟩ := Path.exists_steps_of_fileName? hne hname
  rw [hsteps] at hleads
  cases hentry.symm.trans (lookup?_of_last_step hleads (reached_start hhome) hlast)

end Declaration

end Accessors
