import Accessors.Proofs.Plan.Notices
import Accessors.Proofs.Program.Modes

/-!
# There is always a document

The path of an open file never changes (`FileDesk.path_history`), and the path of a file that can be
read names a declaration. So whatever has happened to a file since it was opened, a plan has
something to look for in it, and a run comes to an outcome about it. The program never has to say
that there is no document (`no_missing_document`), and all that it has to say can be put into words
(`isPlain_of_logged`).
-/

namespace Accessors

/-! ## The path of an open file -/

namespace FileDesk

theorem path_edit (edit : Edit) (desk : FileDesk) :
    (edit.perform desk).editor.file.path = desk.file.path := by
  show (desk.insert edit.position edit.fragments).editor.file.path = desk.file.path
  obtain ⟨-, hfile⟩ | ⟨error, -, hfile⟩ := desk.insert_cases edit.position edit.fragments
  · rw [hfile]
  · rw [hfile]

theorem Action.path_perform (action : Action) (desk : FileDesk) :
    (action.perform desk).file.path = desk.file.path := by
  cases action with
  | insert edit => exact path_edit edit desk
  | run plan =>
    exact plan.run_keeps (P := fun later : FileDesk => later.file.path = desk.file.path)
      (fun edit later h => (path_edit edit later).trans h) rfl
  | outside tree => rfl

theorem path_history (actions : List Action) (desk : FileDesk) :
    (history actions desk).file.path = desk.file.path := by
  induction actions generalizing desk with
  | nil => rfl
  | cons action actions ih => exact (ih (action.perform desk)).trans (action.path_perform desk)

end FileDesk

/-! ## What is reported -/

open Log

/-- Whether a notice can be put into words, and is not that there is nothing to edit. -/
def Log.Notice.IsPlain (notice : Notice) : Prop :=
  notice ≠ .nothingToEdit ∧ notice.hasText = true

namespace Plan

variable {σ : Type} [Editor σ]

theorem result_run_ne {plan : Plan} {editor : σ} (h : ¬ plan.Lacks editor) :
    (plan.run editor).result ≠ .ok .noDocument := by
  intro hnone
  cases course_run plan editor with
  | edited _ _ _ hresult =>
    obtain ⟨-, -, houtcome⟩ := map_eq_ok_iff.1 (hresult.symm.trans hnone)
    cases houtcome
  | noProperties _ _ hresult => cases hresult.symm.trans hnone
  | noDocument hlacks _ _ => exact h hlacks
  | failed _ _ hresult => cases hresult.symm.trans hnone

theorem not_lacks_of_declarationOf? {plan : Plan} {desk : FileDesk} {declaration : String}
    (h : plan.declarationOf? desk.file.path = some declaration) : ¬ plan.Lacks desk := by
  have hname : (Editor.fileName? desk).bind plan.declarationOf? = some declaration := h
  rintro (hnone | hnone | ⟨hnone, -⟩)
  · cases hnone
  · cases hname.symm.trans hnone
  · cases hnone

theorem Reports.isPlain {plan : Plan} {desk : FileDesk} {notice : Notice}
    (h : plan.Reports desk notice) (hline : desk.file.cursor.line.toNat + 1 < UInt32.size) :
    notice.IsPlain := by
  cases h with
  | inserting hfinds _ =>
    obtain ⟨-, hcursor⟩ := finds_iff.1 hfinds
    obtain rfl := Option.some.inj hcursor
    exact ⟨by simp, decide_eq_true hline⟩
  | @edited edit _ h =>
    replace h : notice ∈ (desk.insert edit.position edit.fragments).notices := h
    rw [FileDesk.insert] at h
    split at h
    · cases h
    · obtain rfl := List.mem_singleton.1 h
      exact ⟨by simp, rfl⟩
  | _ => exact ⟨by simp, rfl⟩

end Plan

/-! ## The program -/

namespace Program

variable {arguments : List String} {tree : Files.Tree} {invocation : Invocation}
  {settings : Settings} {file : OpenFile}

theorem isPlain_edit {plan : Plan} {desk : FileDesk} (h : ¬ plan.Lacks desk)
    (hline : desk.file.cursor.line.toNat + 1 < UInt32.size) :
    ∀ notice ∈ (edit plan desk).notices, notice.IsPlain := by
  have hrun : ∀ notice ∈ Notice.executing Registry.generateCommand :: (plan.run desk).notices,
      notice.IsPlain :=
    List.forall_mem_cons.2 ⟨⟨by simp, rfl⟩, fun _ h => (Plan.reports_run h).isPlain hline⟩
  simp only [edit, plan.run_install]
  split
  · exact hrun
  · rename_i outcome hresult
    refine List.forall_mem_append.2 ⟨hrun, ?_⟩
    cases outcome with
    | noDocument => exact absurd hresult (Plan.result_run_ne h)
    | noProperties declaration => simp [outcomeNotices, Notice.IsPlain, Notice.hasText]
    | inserted declaration count position => simp [outcomeNotices]

theorem isPlain_serve {plan : Plan} {desk : FileDesk} (h : ¬ plan.Lacks desk)
    (hline : desk.file.cursor.line.toNat + 1 < UInt32.size) (invocation : Invocation) :
    ∀ notice ∈ (serve invocation plan desk).notices, notice.IsPlain := by
  rw [serve]
  split
  · rw [print]
    split
    · simp
    · simp
    · refine List.forall_mem_append.2
        ⟨fun _ h => (Plan.reports_searchNotices h).isPlain hline, ?_⟩
      simp [Notice.IsPlain, Notice.hasText]
  · exact isPlain_edit h hline

theorem isPlain_settingsNotices (invocation : Invocation) (tree : Files.Tree) :
    ∀ notice ∈ invocation.settingsNotices tree, notice.IsPlain := by
  have hcheck : ∀ settings : Settings, ∀ notice ∈ settings.checkNotices, notice.IsPlain := by
    intro settings
    rw [Settings.checkNotices]
    split <;> simp [Notice.IsPlain, Notice.hasText]
  have hloading : ∀ path, (Notice.loading path).IsPlain := fun path => ⟨by simp, rfl⟩
  rw [Invocation.settingsNotices]
  cases invocation.config with
  | none =>
    cases invocation.settings tree with
    | error error => simp
    | ok settings => exact hcheck settings
  | some path =>
    cases invocation.settings tree with
    | error error => exact List.forall_mem_singleton.2 (hloading path)
    | ok settings => exact List.forall_mem_cons.2 ⟨hloading path, hcheck settings⟩

theorem isPlain_carryOut (hhome : tree.Reached tree.workingDirectory) (invocation : Invocation) :
    ∀ notice ∈ (carryOut invocation tree).notices, notice.IsPlain := by
  have hsettings := isPlain_settingsNotices invocation tree
  rw [carryOut]
  split
  · simp
  · simp only
    split
    · exact hsettings
    · rename_i settings _
      split
      · exact hsettings
      · rename_i file hopen
        obtain ⟨hread, hpath, hcursor, -⟩ := OpenFile.of_open? hopen
        obtain ⟨declaration, hdeclaration⟩ :=
          exists_declarationOf? (settings.plan invocation.declaration)
            (Declaration.name?_of_readText? hread (.inr hhome))
        rw [← hpath] at hdeclaration
        have hline : file.cursor.line.toNat + 1 < UInt32.size := by
          rw [hcursor]
          exact toNat_fromZero_add_one_lt invocation.line
        have hopened : file.openedNotice.IsPlain := ⟨by simp [OpenFile.openedNotice], rfl⟩
        have hlacks : ¬ (settings.plan invocation.declaration).Lacks (FileDesk.mk file tree) :=
          Plan.not_lacks_of_declarationOf? hdeclaration
        refine List.forall_mem_append.2 ⟨hsettings, List.forall_mem_cons.2 ⟨hopened, ?_⟩⟩
        exact isPlain_serve hlacks hline invocation

theorem mem_of_mem_logLines {filter : Filter} {notices : List Notice} {notice : Notice}
    (h : ErrorLine.logged notice ∈ logLines filter notices) : notice ∈ notices := by
  simp only [logLines, List.mem_map, List.mem_filter, ErrorLine.logged.injEq] at h
  obtain ⟨_, ⟨hmem, -⟩, rfl⟩ := h
  exact hmem

/-- **Whatever the program logs can be put into words**, so that it never stops at a notice, and it
never says that there is nothing to edit. -/
theorem isPlain_of_logged (hhome : tree.Reached tree.workingDirectory) (arguments : List String)
    (logFilter : Option String) {notice : Notice}
    (h : ErrorLine.logged notice ∈ (run arguments logFilter tree).errors) : notice.IsPlain := by
  rw [run] at h
  split at h
  · simp at h
  · rename_i invocation _
    have hwork := isPlain_carryOut hhome invocation
    rw [conclude] at h
    split at h
    · exact hwork _ (mem_of_mem_logLines h)
    · simp only [List.mem_append, List.mem_singleton, reduceCtorEq, or_false] at h
      obtain h | h := h
      · exact hwork _ (mem_of_mem_logLines h)
      · have hmem := mem_of_mem_logLines h
        simp only [List.mem_cons, List.not_mem_nil, or_false] at hmem
        obtain rfl | rfl := hmem
        · exact ⟨by simp, rfl⟩
        · exact ⟨by simp, rfl⟩

/-- **The program never lacks a document.** A file that was opened names a declaration, and goes on
to name it whatever is done to it, so that every plan looks for something in it and no run ends for
want of a document. The program never says that there is nothing to edit, and what it prints are
the properties that it has counted, unless the declaration cannot be looked for, which is an error.
The working directory has to be one that its own names lead to. -/
theorem no_missing_document (hhome : tree.Reached tree.workingDirectory) :
    (∀ path cursor file, OpenFile.open? tree path cursor = .ok file →
      ∀ (plan : Plan) (actions : List FileDesk.Action),
        let desk := FileDesk.history actions ⟨file, tree⟩
        (∃ declaration, plan.declarationOf? path = some declaration ∧
          plan.properties? desk = (plan.query.extract (Text.linesOf desk.file.text) declaration).map
            fun ps => some (declaration, ps)) ∧
          plan.properties? desk ≠ .ok none ∧ (plan.run desk).result ≠ .ok .noDocument) ∧
    ∀ arguments logFilter,
      ErrorLine.logged .nothingToEdit ∉ (run arguments logFilter tree).errors ∧
      ∀ invocation settings file, Ready arguments tree invocation settings file →
        invocation.list = true ∨ invocation.dryRun = true →
        let plan := settings.plan invocation.declaration
        (∃ declaration ps,
            plan.properties? (FileDesk.mk file tree) = .ok (some (declaration, ps)) ∧
            Notice.counted ps.length (plan.query.interface declaration) ∈
              (work invocation settings file tree).notices ∧
            (run arguments logFilter tree).output = preview invocation plan ps) ∨
          ∃ error, plan.properties? (FileDesk.mk file tree) = .error error ∧
            (work invocation settings file tree).result = .error error ∧
            (run arguments logFilter tree).exitCode = 1 := by
  constructor
  · intro path cursor file hopen plan actions desk
    obtain ⟨hread, hpath, -, -⟩ := OpenFile.of_open? hopen
    obtain ⟨declaration, hdeclaration⟩ :=
      exists_declarationOf? plan (Declaration.name?_of_readText? hread (.inr hhome))
    have hdesk : plan.declarationOf? desk.file.path = some declaration := by
      rw [FileDesk.path_history, hpath]
      exact hdeclaration
    have hps := properties?_of_declarationOf? hdesk
    refine ⟨⟨declaration, hdeclaration, hps⟩, fun hnone => ?_,
      Plan.result_run_ne (Plan.not_lacks_of_declarationOf? hdesk)⟩
    obtain ⟨_, -, hsome⟩ := map_eq_ok_iff.1 (hps.symm.trans hnone)
    cases hsome
  · intro arguments logFilter
    refine ⟨fun h => (isPlain_of_logged hhome arguments logFilter h).1 rfl, ?_⟩
    intro invocation settings file hready hprint plan
    obtain ⟨declaration, ps, hfinds⟩ | ⟨error, herror⟩ :=
      finds_or_fails hready.opened (.inr hhome) plan
    · have hps := (Plan.finds_iff.1 hfinds).1
      have hprint' : (invocation.list || invocation.dryRun) = true := by simpa using hprint
      refine .inl ⟨declaration, ps, hps, ?_, (run_of_print logFilter hready hprint hps).2.1⟩
      rw [work, serve, if_pos hprint', print, hps]
      exact List.mem_append_right _ (List.mem_singleton.2 rfl)
    · exact .inr ⟨error, herror, result_serve_of_error herror invocation,
        (run_of_error logFilter hready herror).1⟩

/-- A desk with a working directory below the root and a file that is opened through a link, by a
path that goes up and comes back. -/
def homeDesk : FileDesk where
  file :=
    { path := "../home/.//Foo.model.ts"
      target := ["home", "src", "Real"]
      text := FileDesk.crlfDocument
      ending := .crlf
      cursor := ⟨3, 0⟩ }
  tree :=
    ((((Files.Tree.rooted ["home"]).put ["home", "src"] .directory).put ["home", "src", "Real"]
      (.file FileDesk.crlfDocument.toUTF8 0o644)).put ["home", "Foo.model.ts"] (.link "src/Real"))

theorem no_missing_document_homeDesk :
    let arguments := ["--dry-run", "../home/.//Foo.model.ts", "-l", "4"]
    let later := FileDesk.history [.insert ⟨⟨0, 0⟩, ["// a\n"]⟩, .outside {}, .run {}] homeDesk
    homeDesk.tree.Reached homeDesk.tree.workingDirectory ∧
      OpenFile.open? homeDesk.tree "../home/.//Foo.model.ts" ⟨3, 0⟩ = .ok homeDesk.file ∧
      Plan.properties? {} later ≠ .ok none ∧ (Plan.run {} later).result ≠ .ok .noDocument ∧
      Ready arguments homeDesk.tree
        { file := "../home/.//Foo.model.ts", line := 4, dryRun := true } {} homeDesk.file ∧
      ErrorLine.logged .nothingToEdit ∉ (run arguments (some "debug") homeDesk.tree).errors ∧
      ∃ declaration ps, Plan.properties? {} homeDesk = .ok (some (declaration, ps)) ∧
        (run arguments (some "debug") homeDesk.tree).output =
          preview { file := "", line := 4, dryRun := true } {} ps := by
  intro arguments later
  have hhome : homeDesk.tree.Reached homeDesk.tree.workingDirectory :=
    .name .root (by rfl) (Files.Tree.isName_of (by decide) (by decide) (by decide))
  have hopen : OpenFile.open? homeDesk.tree "../home/.//Foo.model.ts" ⟨3, 0⟩ =
      .ok homeDesk.file := by rfl
  have hready : Ready arguments homeDesk.tree
      { file := "../home/.//Foo.model.ts", line := 4, dryRun := true } {} homeDesk.file :=
    ⟨by rfl, by rfl, by rfl, by rfl⟩
  have hfound : Plan.properties? {} homeDesk = .ok (some ("Foo.model", [])) :=
    Plan.properties?_eq_ok_some_iff.2
      ⟨Text.linesOf FileDesk.crlfDocument, by rfl,
        Query.extract_eq_ok_iff.2 ⟨by decide, by decide⟩⟩
  obtain ⟨hopened, hruns⟩ := no_missing_document hhome
  obtain ⟨-, hsome, hresult⟩ := hopened _ _ _ hopen {}
    [.insert ⟨⟨0, 0⟩, ["// a\n"]⟩, .outside {}, .run {}]
  obtain ⟨hlog, hprints⟩ := hruns arguments (some "debug")
  obtain ⟨declaration, ps, hps, -, houtput⟩ | ⟨error, herror, -⟩ :=
    hprints _ _ _ hready (.inr rfl)
  · exact ⟨hhome, hopen, hsome, hresult, hready, hlog, declaration, ps, hps, houtput⟩
  · cases hfound.symm.trans herror

end Program

end Accessors
