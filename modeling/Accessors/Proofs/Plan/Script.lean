import Accessors.Proofs.Plan.Conduct

/-!
# What handlers do with an editor

A handler knows nothing of an editor but its answers. So what it does is a `Script`: it asks, makes
edits, goes on by what it is told, and comes to a result. The handlers of the program are scripts
(`Script.run_ofPlan`, `Script.run_inserting`).

A `Turn` is one thing that happens to an editor: an edit, a run of a plan, a command with a script
for a handler, or something from aside. What every edit keeps, a script keeps (`Script.run_keeps`),
and so do any number of turns (`Turn.history_keeps`).
-/

namespace Accessors

/-- What is done with an editor that is known by its answers alone. -/
inductive Script
  | done (result : Except Error Outcome)
  | report (notice : Log.Notice) (next : Script)
  | askLines (next : Option (List String) → Script)
  | askFileName (next : Option String → Script)
  | askCursor (next : Option Text.Position → Script)
  | make (edit : Edit) (next : Except Error Unit → Script)

namespace Script

/-- The handler that does it. -/
def run {σ : Type} [Editor σ] : Script → σ → Response σ Outcome
  | done result, editor => { result, editor }
  | report notice next, editor =>
    let rest := next.run editor
    { rest with notices := notice :: rest.notices }
  | askLines next, editor => (next (Editor.lines? editor)).run editor
  | askFileName next, editor => (next (Editor.fileName? editor)).run editor
  | askCursor next, editor => (next (Editor.cursor? editor)).run editor
  | make edit next, editor =>
    let response := edit.perform editor
    let rest := (next response.result).run response.editor
    { rest with notices := response.notices ++ rest.notices }

/-! ## Scripts of the program -/

/-- Puts the accessors of properties in at a line. -/
def insert (plan : Plan) (declaration : String) (ps : List Property) (line : UInt32) : Script :=
  let edit : Edit := ⟨.startOf line, plan.layout.fragments ps⟩
  report (.inserting edit.fragments.length line) (make edit fun
    | .error error => done (.error error)
    | .ok () =>
      report (.generated ps.length (plan.query.interface declaration))
        (done (.ok (.inserted declaration ps.length edit.position))))

/-- Puts the accessors of properties in at the cursor. -/
def generate (plan : Plan) (declaration : String) (ps : List Property) : Script :=
  askCursor fun
    | none => report .noCursor (done (.ok .noDocument))
    | some cursor =>
      if ps.isEmpty then
        report (.noProperties (plan.query.interface declaration))
          (done (.ok (.noProperties declaration)))
      else
        insert plan declaration ps cursor.line

def ofPlan (plan : Plan) : Script :=
  askLines fun lines => askFileName fun fileName =>
    match lines, fileName.bind plan.declarationOf? with
    | some lines, some declaration =>
      match plan.query.extract lines declaration with
      | .error error => done (.error error)
      | .ok ps => report (plan.searchNotice lines declaration) (generate plan declaration ps)
    | _, _ => report .noDocument (done (.ok .noDocument))

def inserting (declaration : String) (fragments : List String) : Script :=
  askCursor fun
    | none => done (.ok .noDocument)
    | some cursor =>
      make ⟨cursor, fragments⟩ fun result =>
        done (result.map fun _ => .inserted declaration fragments.length cursor)

variable {σ : Type} [Editor σ]

theorem run_insert (plan : Plan) (declaration : String) (ps : List Property) (line : UInt32)
    (editor : σ) :
    (insert plan declaration ps line).run editor = plan.insert editor declaration ps line := by
  simp only [insert, run, Plan.insert, Edit.perform]
  cases h : (Editor.insert editor (.startOf line) (plan.layout.fragments ps)).result with
  | error error => simp [run]
  | ok => simp [run]

theorem run_generate (plan : Plan) (declaration : String) (ps : List Property) (editor : σ) :
    (generate plan declaration ps).run editor = plan.runOn editor declaration ps := by
  simp only [generate, run, Plan.runOn]
  cases Editor.cursor? editor with
  | none => rfl
  | some cursor =>
    by_cases hempty : ps.isEmpty = true
    · simp only [hempty, if_true]
      rfl
    · simp only [hempty]
      exact run_insert plan declaration ps cursor.line editor

theorem run_ofPlan (plan : Plan) (editor : σ) :
    (ofPlan plan).run editor = Handler.ofPlan plan editor := by
  simp only [ofPlan, run, Handler.ofPlan, Plan.run, Plan.properties?, Plan.searchNotices,
    Plan.subject?, Option.bind_eq_bind]
  cases Editor.lines? editor with
  | none => rfl
  | some lines =>
    cases Editor.fileName? editor with
    | none => rfl
    | some fileName =>
      simp only [Option.bind_some]
      cases plan.declarationOf? fileName with
      | none => rfl
      | some declaration =>
        by_cases hcompiles : Declaration.Header.isCompilable (plan.query.interface declaration)
        · simp only [Option.bind_some, Option.pure_def, Query.extract, if_pos hcompiles, run,
            run_generate]
          rfl
        · simp only [Option.bind_some, Option.pure_def, Query.extract, if_neg hcompiles, run]
          rfl

theorem run_inserting (declaration : String) (fragments : List String) (editor : σ) :
    (inserting declaration fragments).run editor =
      Handler.inserting declaration fragments editor := by
  simp only [inserting, run, Handler.inserting]
  cases Editor.cursor? editor with
  | none => rfl
  | some cursor => simp [run, Edit.perform]

/-! ## What scripts keep -/

theorem run_keeps {P : σ → Prop}
    (hedit : ∀ (edit : Edit) (editor : σ), P editor → P (edit.perform editor).editor)
    (script : Script) {editor : σ} (h : P editor) : P (script.run editor).editor := by
  induction script generalizing editor with
  | done => exact h
  | report _ _ ih => exact ih h
  | askLines _ ih => exact ih _ h
  | askFileName _ ih => exact ih _ h
  | askCursor _ ih => exact ih _ h
  | make edit _ ih => exact ih _ (hedit edit editor h)

end Script

/-! ## Commands -/

/-- The commands of a table of scripts. -/
def Registry.ofScripts {σ : Type} [Editor σ] (scripts : Std.TreeMap String Script) : Registry σ where
  handlers := scripts.map fun _ script => script.run

theorem Registry.run_ofScripts {σ : Type} [Editor σ] (scripts : Std.TreeMap String Script)
    (command : String) (editor : σ) :
    (((ofScripts scripts : Registry σ).run command editor).editor) =
      match scripts[command]? with
      | none => editor
      | some script => (script.run editor).editor := by
  rw [Registry.run, ofScripts, Std.TreeMap.getElem?_map]
  cases scripts[command]? <;> rfl

/-! ## Turns -/

/-- What can happen to an editor: an edit, a run of a plan, a command, or something from aside. -/
inductive Turn (ω : Type)
  | edit (edit : Edit)
  | run (plan : Plan)
  | command (scripts : Std.TreeMap String Script) (name : String)
  | aside (change : ω)

namespace Turn

variable {σ ω : Type} [Editor σ] (change : ω → σ → σ)

/-- The editor after a turn, whether it succeeded or not. -/
def perform : Turn ω → σ → σ
  | .edit request, editor => (request.perform editor).editor
  | .run plan, editor => (plan.run editor).editor
  | .command scripts name, editor => ((Registry.ofScripts scripts).run name editor).editor
  | .aside other, editor => change other editor

/-- Turns one after the other. -/
def history (turns : List (Turn ω)) (editor : σ) : σ :=
  turns.foldl (fun editor turn => turn.perform change editor) editor

variable {change} {P : σ → Prop}
  (hedit : ∀ (edit : Edit) (editor : σ), P editor → P (edit.perform editor).editor)
  (haside : ∀ (other : ω) (editor : σ), P editor → P (change other editor))
include hedit haside

theorem keeps (turn : Turn ω) {editor : σ} (h : P editor) : P (turn.perform change editor) := by
  cases turn with
  | edit edit => exact hedit edit editor h
  | run plan => exact plan.run_keeps hedit h
  | aside other => exact haside other editor h
  | command scripts name =>
    show P ((Registry.ofScripts scripts).run name editor).editor
    rw [Registry.run_ofScripts]
    cases scripts[name]? with
    | none => exact h
    | some script => exact script.run_keeps hedit h

/-- **What every edit keeps, any number of turns keep**, if what happens from aside keeps it. -/
theorem history_keeps (turns : List (Turn ω)) {editor : σ} (h : P editor) :
    P (history change turns editor) := by
  induction turns generalizing editor with
  | nil => exact h
  | cons turn turns ih => exact ih (turn.keeps hedit haside h)

end Turn

end Accessors
