import Accessors.Command.Registry
import Accessors.Editor.Recorder
import Accessors.Proofs.Declaration.Extent
import Accessors.Proofs.Plan.Run
import Accessors.Proofs.Result

/-!
# What a run asks of its editor

What a run does goes by what the editor answers: `Finds` says that it has lines, a file name that
leads to a declaration, and a cursor, and which properties there are; `Lacks` says that one of these
is missing; `Fails` says that the declaration cannot be looked for. A run then takes one of four
courses (`course_run`): it makes one edit, or finds no properties, or has nothing to work on, or
ends in an error. Two editors that give the same answers see it take the same course
(`SameAnswers.run`).

To see what is asked of an editor it is `Observed`: every edit is passed on to the editor and
written down, and nothing else changes (`run_observed`). `Conduct` is the account of that for a run
and for the command that runs the plan (`conduct_run_and_command`): one edit is asked for if there
are properties and none otherwise, and the result is the truth about it. The name of the file is
needed even by a plan that says which declaration to look for, and a name may be too long to be
looked for (`run_nameless_or_longNamed`).
-/

namespace Accessors

variable {σ : Type} [Editor σ]

/-- What an editor answers to an edit. -/
def Edit.perform (edit : Edit) (editor : σ) : Response σ Unit :=
  Editor.insert editor edit.position edit.fragments

namespace Plan

open Text

/-! ## What there is to do -/

/-- What a plan finds in an editor that has all it needs: lines, a file name that leads to a
declaration, and a cursor. -/
def Finds (plan : Plan) (editor : σ) (declaration : String) (ps : List Property)
    (cursor : Position) : Prop :=
  ∃ lines fileName, Editor.lines? editor = some lines ∧ Editor.fileName? editor = some fileName ∧
    plan.declarationOf? fileName = some declaration ∧ Editor.cursor? editor = some cursor ∧
    plan.query.extract lines declaration = .ok ps

/-- Whether an editor has lines and a file name that leads to a declaration, and the declaration
cannot be looked for. -/
def Fails (plan : Plan) (editor : σ) (error : Error) : Prop :=
  ∃ lines fileName declaration, Editor.lines? editor = some lines ∧
    Editor.fileName? editor = some fileName ∧ plan.declarationOf? fileName = some declaration ∧
    plan.query.extract lines declaration = .error error

/-- Whether an editor has no lines, no file name that leads to a declaration, or no cursor. That
there is no cursor is not found out if the declaration cannot be looked for. -/
def Lacks (plan : Plan) (editor : σ) : Prop :=
  Editor.lines? editor = none ∨ (Editor.fileName? editor).bind plan.declarationOf? = none ∨
    Editor.cursor? editor = none ∧ ∀ error, ¬ plan.Fails editor error

/-- The edit that puts the accessors of properties in at the line with the cursor. -/
def edit (plan : Plan) (ps : List Property) (cursor : Position) : Edit :=
  ⟨⟨cursor.line, 0⟩, plan.layout.fragments ps⟩

variable {plan : Plan} {editor : σ}

theorem subject?_eq_some_iff {lines : List String} {declaration : String} :
    plan.subject? editor = some (lines, declaration) ↔
      Editor.lines? editor = some lines ∧ ∃ fileName, Editor.fileName? editor = some fileName ∧
        plan.declarationOf? fileName = some declaration := by
  simp only [subject?, Option.bind_eq_bind, Option.bind_eq_some_iff, Option.pure_def,
    Option.some.injEq, Prod.mk.injEq]
  constructor
  · rintro ⟨_, hlines, fileName, hname, _, hdeclaration, rfl, rfl⟩
    exact ⟨hlines, fileName, hname, hdeclaration⟩
  · rintro ⟨hlines, fileName, hname, hdeclaration⟩
    exact ⟨_, hlines, fileName, hname, _, hdeclaration, rfl, rfl⟩

theorem finds_iff {declaration : String} {ps : List Property} {cursor : Position} :
    plan.Finds editor declaration ps cursor ↔
      plan.properties? editor = .ok (some (declaration, ps)) ∧
        Editor.cursor? editor = some cursor := by
  simp only [properties?_eq_ok_some_iff, subject?_eq_some_iff]
  constructor
  · rintro ⟨lines, fileName, hlines, hname, hdeclaration, hcursor, hps⟩
    exact ⟨⟨lines, ⟨hlines, fileName, hname, hdeclaration⟩, hps⟩, hcursor⟩
  · rintro ⟨⟨lines, ⟨hlines, fileName, hname, hdeclaration⟩, hps⟩, hcursor⟩
    exact ⟨lines, fileName, hlines, hname, hdeclaration, hcursor, hps⟩

theorem fails_iff {error : Error} :
    plan.Fails editor error ↔ plan.properties? editor = .error error := by
  rw [properties?]
  cases hsubject : plan.subject? editor with
  | none =>
    refine iff_of_false ?_ (by simp)
    rintro ⟨lines, fileName, declaration, hlines, hname, hdeclaration, -⟩
    cases hsubject.symm.trans (subject?_eq_some_iff.2 ⟨hlines, fileName, hname, hdeclaration⟩)
  | some subject =>
    obtain ⟨lines, declaration⟩ := subject
    rw [map_eq_error_iff]
    constructor
    · rintro ⟨lines', fileName, declaration', hlines, hname, hdeclaration, hfails⟩
      have heq := hsubject.symm.trans
        (subject?_eq_some_iff.2 ⟨hlines, fileName, hname, hdeclaration⟩)
      obtain ⟨rfl, rfl⟩ := Prod.mk.inj (Option.some.inj heq)
      exact hfails
    · intro hfails
      obtain ⟨hlines, fileName, hname, hdeclaration⟩ := subject?_eq_some_iff.1 hsubject
      exact ⟨lines, fileName, declaration, hlines, hname, hdeclaration, hfails⟩

theorem Finds.unique {declaration declaration' : String} {ps ps' : List Property}
    {cursor cursor' : Position} (h : plan.Finds editor declaration ps cursor)
    (h' : plan.Finds editor declaration' ps' cursor') :
    declaration = declaration' ∧ ps = ps' ∧ cursor = cursor' := by
  obtain ⟨hps, hcursor⟩ := finds_iff.1 h
  obtain ⟨hps', hcursor'⟩ := finds_iff.1 h'
  obtain ⟨rfl, rfl⟩ := Prod.mk.inj (Option.some.inj (Except.ok.inj (hps.symm.trans hps')))
  exact ⟨rfl, rfl, Option.some.inj (hcursor.symm.trans hcursor')⟩

theorem Lacks.not_finds (h : plan.Lacks editor) {declaration : String} {ps : List Property}
    {cursor : Position} : ¬ plan.Finds editor declaration ps cursor := by
  rintro ⟨lines, fileName, hlines, hname, hdeclaration, hcursor, -⟩
  simp [Lacks, hlines, hname, hdeclaration, hcursor] at h

theorem Fails.not_finds {error : Error} (h : plan.Fails editor error) {declaration : String}
    {ps : List Property} {cursor : Position} : ¬ plan.Finds editor declaration ps cursor := by
  intro hfinds
  cases (fails_iff.1 h).symm.trans (finds_iff.1 hfinds).1

theorem Lacks.not_fails (h : plan.Lacks editor) {error : Error} : ¬ plan.Fails editor error := by
  intro hfails
  obtain ⟨lines, fileName, declaration, hlines, hname, hdeclaration, -⟩ := id hfails
  rcases h with hnone | hnone | ⟨-, hnot⟩
  · cases hlines.symm.trans hnone
  · rw [hname, Option.bind_some, hdeclaration] at hnone
    cases hnone
  · exact hnot error hfails

theorem finds_or_lacks_or_fails (plan : Plan) (editor : σ) :
    (∃ declaration ps cursor, plan.Finds editor declaration ps cursor) ∨ plan.Lacks editor ∨
      ∃ error, plan.Fails editor error := by
  by_cases hfails : ∃ error, plan.Fails editor error
  · exact .inr (.inr hfails)
  · cases hlines : Editor.lines? editor with
    | none => exact .inr (.inl (.inl hlines))
    | some lines =>
      cases hname : (Editor.fileName? editor).bind plan.declarationOf? with
      | none => exact .inr (.inl (.inr (.inl hname)))
      | some declaration =>
        cases hcursor : Editor.cursor? editor with
        | none => exact .inr (.inl (.inr (.inr ⟨hcursor, not_exists.1 hfails⟩)))
        | some cursor =>
          obtain ⟨fileName, hfile, hdeclaration⟩ := Option.bind_eq_some_iff.1 hname
          cases hps : plan.query.extract lines declaration with
          | error error =>
            exact absurd ⟨error, lines, fileName, declaration, hlines, hfile, hdeclaration, hps⟩
              hfails
          | ok ps =>
            exact .inl
              ⟨declaration, ps, cursor, lines, fileName, hlines, hfile, hdeclaration, hcursor, hps⟩

/-! ## The course of a run -/

/-- The ways in which a run can go: there are properties, and it comes to what one edit comes to; or
there are none; or something is missing; or looking for them is an error. -/
inductive Course (plan : Plan) (editor : σ) (response : Response σ Outcome) : Prop
  | edited {declaration : String} {ps : List Property} {cursor : Position}
      (hfinds : plan.Finds editor declaration ps cursor) (hne : ps ≠ [])
      (heditor : response.editor = ((plan.edit ps cursor).perform editor).editor)
      (hresult : response.result = ((plan.edit ps cursor).perform editor).result.map fun _ =>
        .inserted declaration ps.length ⟨cursor.line, 0⟩)
  | noProperties {declaration : String} {cursor : Position}
      (hfinds : plan.Finds editor declaration [] cursor) (heditor : response.editor = editor)
      (hresult : response.result = .ok (.noProperties declaration))
  | noDocument (hlacks : plan.Lacks editor) (heditor : response.editor = editor)
      (hresult : response.result = .ok .noDocument)
  | failed {error : Error} (hfails : plan.Fails editor error) (heditor : response.editor = editor)
      (hresult : response.result = .error error)

/-- **A run takes one of the four courses.** -/
theorem course_run (plan : Plan) (editor : σ) : plan.Course editor (plan.run editor) := by
  obtain ⟨declaration, ps, cursor, hfinds⟩ | hlacks | ⟨error, hfails⟩ :=
    finds_or_lacks_or_fails plan editor
  · obtain ⟨hps, hcursor⟩ := finds_iff.1 hfinds
    by_cases hne : ps = []
    · subst hne
      refine .noProperties hfinds ?_ ?_ <;> simp [run, hps, runOn, hcursor]
    · obtain ⟨heditor, hresult⟩ := run_of_properties? hps hcursor hne
      exact .edited hfinds hne heditor hresult
  · cases hps : plan.properties? editor with
    | error error => exact absurd (fails_iff.2 hps) hlacks.not_fails
    | ok found =>
      cases found with
      | none => refine .noDocument hlacks ?_ ?_ <;> simp [run, hps]
      | some found =>
        -- only the cursor can be missing now, and that is asked for after the search
        have hcursor : Editor.cursor? editor = none := by
          cases hcursor : Editor.cursor? editor with
          | none => rfl
          | some cursor => exact absurd (finds_iff.2 ⟨hps, hcursor⟩) hlacks.not_finds
        refine .noDocument hlacks ?_ ?_ <;> simp [run, hps, runOn, hcursor]
  · have hps := fails_iff.1 hfails
    refine .failed hfails ?_ ?_ <;> simp [run, hps]

namespace Course

variable {response : Response σ Outcome} {declaration : String} {ps : List Property}
  {cursor : Position}

theorem of_finds (h : plan.Course editor response)
    (hfinds : plan.Finds editor declaration ps cursor) (hne : ps ≠ []) :
    response.editor = ((plan.edit ps cursor).perform editor).editor ∧
      response.result = ((plan.edit ps cursor).perform editor).result.map fun _ =>
        .inserted declaration ps.length ⟨cursor.line, 0⟩ := by
  cases h with
  | edited hfinds' _ heditor hresult =>
    obtain ⟨rfl, rfl, rfl⟩ := hfinds'.unique hfinds
    exact ⟨heditor, hresult⟩
  | noProperties hfinds' _ _ => exact absurd (hfinds.unique hfinds').2.1 hne
  | noDocument hlacks _ _ => exact absurd hfinds hlacks.not_finds
  | failed hfails _ _ => exact absurd hfinds hfails.not_finds

theorem of_finds_nil (h : plan.Course editor response)
    (hfinds : plan.Finds editor declaration [] cursor) :
    response.editor = editor ∧ response.result = .ok (.noProperties declaration) := by
  cases h with
  | edited hfinds' hne _ _ => exact absurd (hfinds'.unique hfinds).2.1 hne
  | noProperties hfinds' heditor hresult =>
    obtain ⟨rfl, -, -⟩ := hfinds'.unique hfinds
    exact ⟨heditor, hresult⟩
  | noDocument hlacks _ _ => exact absurd hfinds hlacks.not_finds
  | failed hfails _ _ => exact absurd hfinds hfails.not_finds

theorem of_lacks (h : plan.Course editor response) (hlacks : plan.Lacks editor) :
    response.editor = editor ∧ response.result = .ok .noDocument := by
  cases h with
  | edited hfinds _ _ _ => exact absurd hfinds hlacks.not_finds
  | noProperties hfinds _ _ => exact absurd hfinds hlacks.not_finds
  | noDocument _ heditor hresult => exact ⟨heditor, hresult⟩
  | failed hfails _ _ => exact absurd hfails hlacks.not_fails

theorem of_fails (h : plan.Course editor response) {error : Error}
    (hfails : plan.Fails editor error) :
    response.editor = editor ∧ response.result = .error error := by
  cases h with
  | edited hfinds _ _ _ => exact absurd hfinds hfails.not_finds
  | noProperties hfinds _ _ => exact absurd hfinds hfails.not_finds
  | noDocument hlacks _ _ => exact absurd hfails hlacks.not_fails
  | failed hfails' heditor hresult =>
    obtain rfl := Except.error.inj ((fails_iff.1 hfails').symm.trans (fails_iff.1 hfails))
    exact ⟨heditor, hresult⟩

end Course

theorem run_keeps {P : σ → Prop}
    (hedit : ∀ (edit : Edit) (editor : σ), P editor → P (edit.perform editor).editor)
    (plan : Plan) {editor : σ} (h : P editor) : P (plan.run editor).editor := by
  cases course_run plan editor with
  | edited _ _ heditor _ =>
    rw [heditor]
    exact hedit _ _ h
  | noProperties _ heditor _ => rwa [heditor]
  | noDocument _ heditor _ => rwa [heditor]
  | failed _ heditor _ => rwa [heditor]

theorem run_install (plan : Plan) (registry : Registry σ) (editor : σ) :
    (registry.install plan).run Registry.generateCommand editor =
      { plan.run editor with
        notices := .executing Registry.generateCommand :: (plan.run editor).notices } := by
  rw [Registry.run, Registry.install, Registry.insert, Std.TreeMap.getElem?_insert_self]
  rfl

theorem course_command (plan : Plan) (registry : Registry σ) (editor : σ) :
    plan.Course editor ((registry.install plan).run Registry.generateCommand editor) := by
  rw [run_install]
  cases course_run plan editor with
  | edited hfinds hne heditor hresult => exact .edited hfinds hne heditor hresult
  | noProperties hfinds heditor hresult => exact .noProperties hfinds heditor hresult
  | noDocument hlacks heditor hresult => exact .noDocument hlacks heditor hresult
  | failed hfails heditor hresult => exact .failed hfails heditor hresult

/-! ## Two editors -/

/-- Whether two editors give the same answers. -/
structure SameAnswers {τ : Type} [Editor τ] (a : σ) (b : τ) : Prop where
  lines? : Editor.lines? a = Editor.lines? b
  fileName? : Editor.fileName? a = Editor.fileName? b
  cursor? : Editor.cursor? a = Editor.cursor? b

section SameAnswers

variable {τ : Type} [Editor τ] {a : σ} {b : τ}

theorem SameAnswers.finds (h : SameAnswers a b) {declaration : String} {ps : List Property}
    {cursor : Position} (hfinds : plan.Finds a declaration ps cursor) :
    plan.Finds b declaration ps cursor := by
  rw [Finds, ← h.lines?, ← h.fileName?, ← h.cursor?]
  exact hfinds

theorem SameAnswers.fails (h : SameAnswers a b) {error : Error} (hfails : plan.Fails a error) :
    plan.Fails b error := by
  rw [Fails, ← h.lines?, ← h.fileName?]
  exact hfails

theorem SameAnswers.symm (h : SameAnswers a b) : SameAnswers b a :=
  ⟨h.lines?.symm, h.fileName?.symm, h.cursor?.symm⟩

theorem SameAnswers.lacks (h : SameAnswers a b) (hlacks : plan.Lacks a) : plan.Lacks b := by
  rw [Lacks, ← h.lines?, ← h.fileName?, ← h.cursor?]
  refine hlacks.imp_right (Or.imp_right (And.imp_right fun hnot error hfails => ?_))
  exact hnot error (h.symm.fails hfails)

/-- **In editors that give the same answers a run makes the same edit**, or leaves both as they are
and comes to the same. -/
theorem SameAnswers.run (h : SameAnswers a b) (plan : Plan) :
    (∃ declaration ps cursor, plan.Finds a declaration ps cursor ∧ ps ≠ [] ∧
      ((plan.run a).editor = ((plan.edit ps cursor).perform a).editor ∧
        (plan.run b).editor = ((plan.edit ps cursor).perform b).editor) ∧
      (plan.run a).result = ((plan.edit ps cursor).perform a).result.map (fun _ =>
        .inserted declaration ps.length ⟨cursor.line, 0⟩) ∧
      (plan.run b).result = ((plan.edit ps cursor).perform b).result.map fun _ =>
        .inserted declaration ps.length ⟨cursor.line, 0⟩) ∨
    ((plan.run a).editor = a ∧ (plan.run b).editor = b) ∧
      (plan.run a).result = (plan.run b).result := by
  have hcourseA := course_run plan a
  have hcourseB := course_run plan b
  obtain ⟨declaration, ps, cursor, hfinds⟩ | hlacks | ⟨error, hfails⟩ :=
    finds_or_lacks_or_fails plan a
  · by_cases hne : ps = []
    · subst hne
      obtain ⟨heditorA, hresultA⟩ := hcourseA.of_finds_nil hfinds
      obtain ⟨heditorB, hresultB⟩ := hcourseB.of_finds_nil (h.finds hfinds)
      exact .inr ⟨⟨heditorA, heditorB⟩, hresultA.trans hresultB.symm⟩
    · obtain ⟨heditorA, hresultA⟩ := hcourseA.of_finds hfinds hne
      obtain ⟨heditorB, hresultB⟩ := hcourseB.of_finds (h.finds hfinds) hne
      exact .inl ⟨declaration, ps, cursor, hfinds, hne, ⟨heditorA, heditorB⟩, hresultA, hresultB⟩
  · obtain ⟨heditorA, hresultA⟩ := hcourseA.of_lacks hlacks
    obtain ⟨heditorB, hresultB⟩ := hcourseB.of_lacks (h.lacks hlacks)
    exact .inr ⟨⟨heditorA, heditorB⟩, hresultA.trans hresultB.symm⟩
  · obtain ⟨heditorA, hresultA⟩ := hcourseA.of_fails hfails
    obtain ⟨heditorB, hresultB⟩ := hcourseB.of_fails (h.fails hfails)
    exact .inr ⟨⟨heditorA, heditorB⟩, hresultA.trans hresultB.symm⟩

end SameAnswers

/-! ## Edits that are asked for -/

/-- An editor under observation: `requests` are the edits that it has been asked for, in order,
whether it made them or not. -/
structure Observed (σ : Type) where
  editor : σ
  requests : List Edit := []

instance : Editor (Observed σ) where
  lines? observed := Editor.lines? observed.editor
  fileName? observed := Editor.fileName? observed.editor
  cursor? observed := Editor.cursor? observed.editor
  insert observed position fragments :=
    let response := Editor.insert observed.editor position fragments
    { response with
      editor := ⟨response.editor, observed.requests ++ [⟨position, fragments⟩]⟩ }

theorem run_observed (plan : Plan) (observed : Observed σ) :
    (plan.run observed).result = (plan.run observed.editor).result ∧
      (plan.run observed).editor.editor = (plan.run observed.editor).editor := by
  have hsame : SameAnswers observed observed.editor := ⟨rfl, rfl, rfl⟩
  obtain ⟨declaration, ps, cursor, -, -, ⟨hafter, hafter'⟩, hresult, hresult'⟩ |
    ⟨⟨hafter, hafter'⟩, hresult⟩ := hsame.run plan
  · rw [hafter, hafter', hresult, hresult']
    exact ⟨rfl, rfl⟩
  · rw [hafter, hafter', hresult]
    exact ⟨rfl, rfl⟩

/-- The account of what an editor was asked for on behalf of a plan, and of what came of it: one
edit if there are properties, and nothing otherwise. An insertion is reported exactly if it was
asked for and made, and an error exactly if the editor gave it as its answer or the declaration
could not be looked for. -/
structure Conduct (plan : Plan) (observed : Observed σ)
    (response : Response (Observed σ) Outcome) : Prop where
  edited : ∀ declaration ps cursor, plan.Finds observed.editor declaration ps cursor → ps ≠ [] →
    response.editor = ⟨((plan.edit ps cursor).perform observed.editor).editor,
      observed.requests ++ [plan.edit ps cursor]⟩
  noProperties : ∀ declaration cursor, plan.Finds observed.editor declaration [] cursor →
    response.editor = observed ∧ response.result = .ok (.noProperties declaration)
  noDocument : plan.Lacks observed.editor →
    response.editor = observed ∧ response.result = .ok .noDocument
  failed : ∀ error, plan.Fails observed.editor error →
    response.editor = observed ∧ response.result = .error error
  asked_iff : response.editor.requests ≠ observed.requests ↔
    ∃ declaration ps cursor, plan.Finds observed.editor declaration ps cursor ∧ ps ≠ []
  inserted_iff : ∀ declaration count position,
    response.result = .ok (.inserted declaration count position) ↔
      ∃ ps cursor, plan.Finds observed.editor declaration ps cursor ∧ ps ≠ [] ∧
        ((plan.edit ps cursor).perform observed.editor).result = .ok () ∧
        count = ps.length ∧ position = ⟨cursor.line, 0⟩
  error_iff : ∀ error, response.result = .error error ↔
    (∃ declaration ps cursor, plan.Finds observed.editor declaration ps cursor ∧ ps ≠ [] ∧
      ((plan.edit ps cursor).perform observed.editor).result = .error error) ∨
        plan.Fails observed.editor error

namespace Course

variable {observed : Observed σ} {response : Response (Observed σ) Outcome}

theorem asked_iff (h : plan.Course observed response) :
    response.editor.requests ≠ observed.requests ↔
      ∃ declaration ps cursor, plan.Finds observed.editor declaration ps cursor ∧ ps ≠ [] := by
  cases h with
  | edited hfinds hne heditor _ =>
    refine iff_of_true ?_ ⟨_, _, _, hfinds, hne⟩
    rw [heditor]
    simp [Edit.perform, Editor.insert]
  | noProperties hfinds heditor _ =>
    refine iff_of_false (by simp [heditor]) ?_
    rintro ⟨_, _, _, hfinds', hne⟩
    exact hne (Finds.unique hfinds' hfinds).2.1
  | noDocument hlacks heditor _ =>
    refine iff_of_false (by simp [heditor]) ?_
    rintro ⟨_, _, _, hfinds, -⟩
    exact Lacks.not_finds hlacks hfinds
  | failed hfails heditor _ =>
    refine iff_of_false (by simp [heditor]) ?_
    rintro ⟨_, _, _, hfinds, -⟩
    exact Fails.not_finds hfails hfinds

theorem inserted_iff (h : plan.Course observed response) (declaration : String) (count : Nat)
    (position : Position) :
    response.result = .ok (.inserted declaration count position) ↔
      ∃ ps cursor, plan.Finds observed.editor declaration ps cursor ∧ ps ≠ [] ∧
        ((plan.edit ps cursor).perform observed.editor).result = .ok () ∧
        count = ps.length ∧ position = ⟨cursor.line, 0⟩ := by
  cases h with
  | @edited _ ps cursor hfinds hne _ hresult =>
    rw [hresult, map_eq_ok_iff]
    constructor
    · rintro ⟨_, hanswer, heq⟩
      obtain ⟨rfl, rfl, rfl⟩ := Outcome.inserted.inj heq
      exact ⟨ps, cursor, hfinds, hne, hanswer, rfl, rfl⟩
    · rintro ⟨_, _, hfinds', _, hanswer, rfl, rfl⟩
      obtain ⟨rfl, rfl, rfl⟩ := Finds.unique hfinds hfinds'
      exact ⟨(), hanswer, rfl⟩
  | noProperties hfinds _ hresult =>
    refine iff_of_false (by simp [hresult]) ?_
    rintro ⟨_, _, hfinds', hne, -⟩
    exact hne (Finds.unique hfinds' hfinds).2.1
  | noDocument hlacks _ hresult =>
    refine iff_of_false (by simp [hresult]) ?_
    rintro ⟨_, _, hfinds, -⟩
    exact Lacks.not_finds hlacks hfinds
  | failed hfails _ hresult =>
    refine iff_of_false (by simp [hresult]) ?_
    rintro ⟨_, _, hfinds, -⟩
    exact Fails.not_finds hfails hfinds

theorem error_iff (h : plan.Course observed response) (error : Error) :
    response.result = .error error ↔
      (∃ declaration ps cursor, plan.Finds observed.editor declaration ps cursor ∧ ps ≠ [] ∧
        ((plan.edit ps cursor).perform observed.editor).result = .error error) ∨
          plan.Fails observed.editor error := by
  cases h with
  | @edited declaration ps cursor hfinds hne _ hresult =>
    rw [hresult, map_eq_error_iff]
    constructor
    · intro hanswer
      exact .inl ⟨declaration, ps, cursor, hfinds, hne, hanswer⟩
    · rintro (⟨_, _, _, hfinds', _, hanswer⟩ | hfails)
      · obtain ⟨rfl, rfl, rfl⟩ := Finds.unique hfinds hfinds'
        exact hanswer
      · exact absurd hfinds (Fails.not_finds hfails)
  | noProperties hfinds _ hresult =>
    refine iff_of_false (by simp [hresult]) ?_
    rintro (⟨_, _, _, hfinds', hne, -⟩ | hfails)
    · exact hne (Finds.unique hfinds' hfinds).2.1
    · exact Fails.not_finds hfails hfinds
  | noDocument hlacks _ hresult =>
    refine iff_of_false (by simp [hresult]) ?_
    rintro (⟨_, _, _, hfinds, -⟩ | hfails)
    · exact Lacks.not_finds hlacks hfinds
    · exact Lacks.not_fails hlacks hfails
  | @failed error' hfails _ hresult =>
    rw [hresult, Except.error.injEq]
    constructor
    · rintro rfl
      exact .inr hfails
    · rintro (⟨_, _, _, hfinds, -⟩ | hfails')
      · exact absurd hfinds (Fails.not_finds hfails)
      · exact Except.error.inj ((fails_iff.1 hfails).symm.trans (fails_iff.1 hfails'))

theorem conduct (h : plan.Course observed response) : plan.Conduct observed response where
  edited := fun _ _ _ hfinds hne => (h.of_finds hfinds hne).1
  noProperties := fun _ _ hfinds => h.of_finds_nil hfinds
  noDocument := fun hlacks => h.of_lacks hlacks
  failed := fun _ hfails => h.of_fails hfails
  asked_iff := h.asked_iff
  inserted_iff := h.inserted_iff
  error_iff := h.error_iff

end Course

/-- **A run asks for at most one edit and reports the truth about it**, whatever the editor answers,
and so does the command that runs the plan. -/
theorem conduct_run_and_command (plan : Plan) (observed : Observed σ)
    (registry : Registry (Observed σ)) :
    plan.Conduct observed (plan.run observed) ∧
      plan.Conduct observed
        ((registry.install plan).run Registry.generateCommand observed) ∧
      (plan.run observed).result = (plan.run observed.editor).result ∧
      (plan.run observed).editor.editor = (plan.run observed.editor).editor := by
  refine ⟨(course_run plan observed).conduct, (course_command plan registry observed).conduct, ?_⟩
  exact run_observed plan observed

/-- An editor with a document that has no name. -/
def nameless : Recorder :=
  { lines := some ["interface IFooData \x7b", "  id: number;", "\x7d"], cursor := some ⟨3, 1⟩ }

/-- **Without the name of a file nothing is done**, even if the plan says which declaration to look
for, and this declaration has properties. **With a name that is too long for a pattern** there is an
error, although no edit was asked for. -/
theorem run_nameless_or_longNamed :
    (let plan : Plan := { declaration := some "Foo" }
      let response := plan.run (Observed.mk nameless [])
      (∃ lines, Editor.lines? nameless = some lines ∧
        (plan.declaration <|> (Editor.fileName? nameless).bind Declaration.name?) = some "Foo" ∧
        Editor.cursor? nameless = some ⟨3, 1⟩ ∧
        plan.query.properties lines "Foo" = [⟨"id", "number"⟩]) ∧
      response.editor.requests = [] ∧ response.result = .ok .noDocument) ∧
    let plan : Plan := { query := .withLead 400000 }
    let response := plan.run (Observed.mk { nameless with fileName := some "Foo.ts" } [])
    response.editor.requests = [] ∧ response.result = .error (.pattern
      "Compiled regex exceeds size limit of 10485760 bytes.") := by
  have htext : Declaration.Header.sizeError =
      .pattern "Compiled regex exceeds size limit of 10485760 bytes." := by rfl
  have hcompiles : Declaration.Header.isCompilable
      ((Query.withLead 400000).interface "Foo") = false :=
    Query.isCompilable_withLead (by decide) "Foo"
  have hfails : Fails { query := .withLead 400000 }
      (Observed.mk { nameless with fileName := some "Foo.ts" } []) Declaration.Header.sizeError :=
    ⟨_, "Foo.ts", "Foo", rfl, rfl, by rfl, Query.extract_eq_error_iff.2 ⟨hcompiles, rfl⟩⟩
  obtain ⟨heditor, hresult⟩ := (course_run _ _).of_fails hfails
  refine ⟨⟨⟨_, rfl, rfl, rfl, by decide +kernel⟩, rfl, rfl⟩, ?_, ?_⟩
  · rw [heditor]
  · rw [hresult, htext]

end Plan

end Accessors
