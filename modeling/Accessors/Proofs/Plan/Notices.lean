import Accessors.Log.Filter
import Accessors.Proofs.Plan.Conduct

/-!
# What a run reports

`Reports` lists what a run can report, and `reports_run` says that this is all. The one notice with a
number that comes from the editor tells the line of the edit; it stands right behind what the search
reports (`notices_run_of_finds`).
-/

namespace Accessors

open Log

theorem Log.Filter.canLog_iff {filter : Filter} {notices : List Notice} :
    filter.canLog notices = true ↔
      ∀ notice ∈ notices, filter.passes notice = true → notice.hasText = true := by
  simp only [canLog, List.all_eq_true, List.mem_filter, and_imp]

namespace Plan

open Text

variable {σ : Type} [Editor σ]

/-- What a run can report. -/
inductive Reports (plan : Plan) (editor : σ) : Notice → Prop
  | noDeclaration {interface : String} {lines : Nat} :
      Reports plan editor (.noDeclaration interface lines)
  | found {interface : String} {line : Nat} : Reports plan editor (.found interface line)
  | noDocument : Reports plan editor .noDocument
  | noCursor : Reports plan editor .noCursor
  | noProperties {interface : String} : Reports plan editor (.noProperties interface)
  | inserting {declaration : String} {ps : List Property} {cursor : Position}
      (hfinds : plan.Finds editor declaration ps cursor) (hne : ps ≠ []) :
      Reports plan editor (.inserting (plan.layout.fragments ps).length cursor.line)
  /-- What the editor itself reports of the edit. -/
  | edited {edit : Edit} {notice : Notice} (h : notice ∈ (edit.perform editor).notices) :
      Reports plan editor notice
  | generated {count : Nat} {interface : String} :
      Reports plan editor (.generated count interface)

theorem reports_searchNotices {plan : Plan} {editor : σ} {notice : Notice}
    (h : notice ∈ plan.searchNotices editor) : plan.Reports editor notice := by
  rw [searchNotices] at h
  split at h
  · cases h
  · split at h
    · obtain rfl := List.mem_singleton.1 h
      rw [searchNotice]
      split
      · exact .noDeclaration
      · exact .found
    · cases h

theorem reports_insert {plan : Plan} {editor : σ} {declaration : String} {ps : List Property}
    {cursor : Position} (hfinds : plan.Finds editor declaration ps cursor) (hne : ps ≠ [])
    {notice : Notice} (h : notice ∈ (plan.insert editor declaration ps cursor.line).notices) :
    plan.Reports editor notice := by
  have hinserting : ∀ notice ∈ Notice.inserting (plan.layout.fragments ps).length cursor.line ::
      ((plan.edit ps cursor).perform editor).notices, plan.Reports editor notice :=
    List.forall_mem_cons.2 ⟨.inserting hfinds hne, fun _ => .edited⟩
  simp only [insert] at h
  split at h
  · exact hinserting notice h
  · obtain h | h := List.mem_append.1 h
    · exact hinserting notice h
    · obtain rfl := List.mem_singleton.1 h
      exact .generated

theorem reports_run {plan : Plan} {editor : σ} {notice : Notice}
    (h : notice ∈ (plan.run editor).notices) : plan.Reports editor notice := by
  rw [run] at h
  split at h
  · cases h
  · obtain rfl := List.mem_singleton.1 h
    exact .noDocument
  · rename_i declaration ps hps
    obtain h | h := List.mem_append.1 h
    · exact reports_searchNotices h
    simp only [runOn] at h
    split at h
    · obtain rfl := List.mem_singleton.1 h
      exact .noCursor
    · rename_i cursor hcursor
      split at h
      · obtain rfl := List.mem_singleton.1 h
        exact .noProperties
      · rename_i hne
        exact reports_insert (finds_iff.2 ⟨hps, hcursor⟩) (by simpa using hne) h

theorem notices_run_of_finds {plan : Plan} {editor : σ} {declaration : String}
    {ps : List Property} {cursor : Position} (h : plan.Finds editor declaration ps cursor)
    (hne : ps ≠ []) :
    ∃ rest, (plan.run editor).notices = plan.searchNotices editor ++
      .inserting (plan.layout.fragments ps).length cursor.line :: rest := by
  obtain ⟨hps, hcursor⟩ := finds_iff.1 h
  simp only [run, hps, runOn, hcursor, List.isEmpty_eq_false_iff.2 hne, Bool.false_eq_true,
    if_false, insert]
  split
  · exact ⟨_, rfl⟩
  · exact ⟨_, rfl⟩

end Plan

end Accessors
