import Accessors.Proofs.Plan.Conduct

/-!
# Editors that keep in step

A `Simulation` is a relation between two editors: related editors give the same answers, and an edit
that a plan makes in both of them leads to related editors again. Runs in editors that take the edits
they ask for then come to the same in both and keep them related, one run (`Simulation.run`) and any
number of them (`Simulation.runs`).
-/

namespace Accessors.Plan

/-! ## Several runs -/

section Editor

variable {σ : Type} [Editor σ] {P : σ → Prop}

theorem runs_append (done left : List Plan) (editor : σ) :
    (runs (done ++ left) editor).1 =
      (runs done editor).1 ++ (runs left (runs done editor).2).1 := by
  induction done generalizing editor with
  | nil => rfl
  | cons plan done ih => simp only [List.cons_append, runs, ih]

theorem mem_runs_of_isPrefix {done plans : List Plan} (h : done <+: plans) {editor : σ}
    {result : Except Error Outcome} (hresult : result ∈ (runs done editor).1) :
    result ∈ (runs plans editor).1 := by
  obtain ⟨left, rfl⟩ := h
  rw [runs_append]
  exact List.mem_append_left _ hresult

/-- Whether an editor takes the edit that a plan asks for, if there is one. -/
def Takes (plan : Plan) (editor : σ) : Prop :=
  ∀ declaration ps cursor, plan.Finds editor declaration ps cursor → ps ≠ [] →
    ((plan.edit ps cursor).perform editor).result = .ok ()

/-- Whether an editor takes all that plans ask for when they are run one after the other. -/
def TakesAll : List Plan → σ → Prop
  | [], _ => True
  | plan :: plans, editor => plan.Takes editor ∧ TakesAll plans (plan.run editor).editor

theorem takesAll_of_edit
    (hedit : ∀ (edit : Edit) (editor : σ), P editor →
      (edit.perform editor).result = .ok () ∧ P (edit.perform editor).editor)
    (plans : List Plan) {editor : σ} (h : P editor) : TakesAll plans editor := by
  induction plans generalizing editor with
  | nil => trivial
  | cons plan plans ih =>
    have hkeep := run_keeps (fun edit editor h => (hedit edit editor h).2) plan h
    exact ⟨fun _ _ _ _ _ => (hedit _ editor h).1, ih hkeep⟩

theorem takesAll_of_results (refusal : Error → Prop)
    (hrefuses : ∀ (edit : Edit) (editor : σ) (error : Error),
      (edit.perform editor).result = .error error → refusal error)
    (plans : List Plan) {editor : σ}
    (h : ∀ result ∈ (runs plans editor).1, ∀ error, refusal error → result ≠ .error error) :
    TakesAll plans editor := by
  induction plans generalizing editor with
  | nil => trivial
  | cons plan plans ih =>
    simp only [runs, List.forall_mem_cons] at h
    refine ⟨fun declaration ps cursor hfinds hne => ?_, ih h.2⟩
    obtain ⟨-, hresult⟩ := (plan.course_run editor).of_finds hfinds hne
    cases hedit : ((plan.edit ps cursor).perform editor).result with
    | ok => rfl
    | error error =>
      rw [hedit] at hresult
      exact absurd hresult (h.1 error (hrefuses _ _ _ hedit))

end Editor

/-! ## Two editors -/

variable {σ τ : Type} [Editor σ] [Editor τ]

/-- Whether related editors give the same answers and stay related when both make the edit of a
plan. -/
structure Simulation (R : σ → τ → Prop) : Prop where
  answers : ∀ {a b}, R a b → SameAnswers a b
  edit : ∀ {a b} {plan : Plan} {declaration ps cursor}, R a b →
    plan.Finds a declaration ps cursor → ps ≠ [] →
    ((plan.edit ps cursor).perform a).result = .ok () →
    ((plan.edit ps cursor).perform b).result = .ok () →
    R ((plan.edit ps cursor).perform a).editor ((plan.edit ps cursor).perform b).editor

namespace Simulation

variable {R : σ → τ → Prop} {a : σ} {b : τ} {plan : Plan}

/-- **A run in two related editors** that take its edit comes to the same in both and leaves them
related. -/
theorem run (h : Simulation R) (hab : R a b) (ha : plan.Takes a) (hb : plan.Takes b) :
    (plan.run a).result = (plan.run b).result ∧ R (plan.run a).editor (plan.run b).editor := by
  obtain ⟨declaration, ps, cursor, hfinds, hne, ⟨hafterA, hafterB⟩, hresultA, hresultB⟩ |
    ⟨⟨hafterA, hafterB⟩, hresult⟩ := (h.answers hab).run plan
  · have hokA := ha declaration ps cursor hfinds hne
    have hokB := hb declaration ps cursor ((h.answers hab).finds hfinds) hne
    rw [hafterA, hafterB, hresultA, hresultB, hokA, hokB]
    exact ⟨rfl, h.edit hab hfinds hne hokA hokB⟩
  · rw [hafterA, hafterB]
    exact ⟨hresult, hab⟩

theorem runs (h : Simulation R) (plans : List Plan) (hab : R a b) (ha : TakesAll plans a)
    (hb : TakesAll plans b) :
    (Plan.runs plans a).1 = (Plan.runs plans b).1 ∧
      R (Plan.runs plans a).2 (Plan.runs plans b).2 := by
  induction plans generalizing a b with
  | nil => exact ⟨rfl, hab⟩
  | cons plan plans ih =>
    obtain ⟨hresult, hnext⟩ := h.run hab ha.1 hb.1
    obtain ⟨hresults, hlast⟩ := ih hnext ha.2 hb.2
    exact ⟨by simp only [Plan.runs, hresult, hresults], hlast⟩

end Simulation

end Accessors.Plan
