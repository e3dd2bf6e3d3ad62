import Accessors.Proofs.Program.Modes

/-!
# How the program ends

Once its arguments are read the program has either `Failed` or is `Done`: it fails if the invocation
or the settings are refused, the file cannot be opened, the declaration cannot be looked for or what
was edited cannot be saved, and it is done if it was to print only, if it found nothing to insert, or
if it has saved the file (`done_or_failed`). It exits with one and a message for the user in the
first case, and with zero in the second. Arguments that cannot be read are an error with an exit code
of its own, which is two (`exitCode_iff`).
-/

namespace Accessors.Program

variable {arguments : List String} {tree : Files.Tree} {invocation : Invocation} {error : Error}

/-- What an open file becomes when the accessors of properties are put in. -/
def edited (plan : Plan) (file : OpenFile) (ps : List Property) : String :=
  file.updated (.startOf file.cursor.line) (plan.layout.fragments ps)

/-- What the program fails with once its arguments are read. -/
inductive Failed (arguments : List String) (tree : Files.Tree) : Error → Prop
  | refused {invocation : Invocation} {error : Error}
      (hread : CommandLine.read arguments = .ok invocation) (h : invocation.check = .error error) :
      Failed arguments tree error
  | unsettled {invocation : Invocation} {error : Error}
      (hread : CommandLine.read arguments = .ok invocation) (hcheck : invocation.check = .ok ())
      (h : invocation.settings tree = .error error) : Failed arguments tree error
  | unopened {invocation : Invocation} {settings : Settings} {error : Error}
      (hread : CommandLine.read arguments = .ok invocation) (hcheck : invocation.check = .ok ())
      (hsettings : invocation.settings tree = .ok settings)
      (h : OpenFile.open? tree invocation.file invocation.cursor = .error error) :
      Failed arguments tree error
  | unsaved {invocation : Invocation} {settings : Settings} {file : OpenFile} {declaration : String}
      {ps : List Property} {fault : Files.Fault} {saved : Files.Tree}
      (hready : Ready arguments tree invocation settings file)
      (hedits : invocation.list = false ∧ invocation.dryRun = false)
      (hps : (settings.plan invocation.declaration).properties? (FileDesk.mk file tree) =
        .ok (some (declaration, ps))) (hne : ps ≠ [])
      (hsave : tree.save file.target
        (edited (settings.plan invocation.declaration) file ps).toUTF8 = (.error fault, saved)) :
      Failed arguments tree (.file fault)
  /-- The declaration cannot be looked for. -/
  | unsearched {invocation : Invocation} {settings : Settings} {file : OpenFile} {error : Error}
      (hready : Ready arguments tree invocation settings file)
      (h : (settings.plan invocation.declaration).properties? (FileDesk.mk file tree) =
        .error error) : Failed arguments tree error

/-- Whether the program does what it is asked for, or has nothing to do. -/
inductive Done (arguments : List String) (tree : Files.Tree) : Prop
  | printed {invocation : Invocation} {settings : Settings} {file : OpenFile}
      {found : Option (String × List Property)}
      (hready : Ready arguments tree invocation settings file)
      (h : invocation.list = true ∨ invocation.dryRun = true)
      (hfound : (settings.plan invocation.declaration).properties? (FileDesk.mk file tree) =
        .ok found)
  | empty {invocation : Invocation} {settings : Settings} {file : OpenFile}
      {found : Option (String × List Property)}
      (hready : Ready arguments tree invocation settings file)
      (hfound : (settings.plan invocation.declaration).properties? (FileDesk.mk file tree) =
        .ok found) (h : ∀ declaration ps, found = some (declaration, ps) → ps = [])
  | saved {invocation : Invocation} {settings : Settings} {file : OpenFile} {declaration : String}
      {ps : List Property} {saved : Files.Tree}
      (hready : Ready arguments tree invocation settings file)
      (hedits : invocation.list = false ∧ invocation.dryRun = false)
      (hps : (settings.plan invocation.declaration).properties? (FileDesk.mk file tree) =
        .ok (some (declaration, ps))) (hne : ps ≠ [])
      (hsave : tree.save file.target
        (edited (settings.plan invocation.declaration) file ps).toUTF8 = (.ok (), saved))

/-! ## The work -/

theorem result_carryOut {settings : Settings} {file : OpenFile}
    (h : Ready arguments tree invocation settings file) :
    (carryOut invocation tree).result = (work invocation settings file tree).result := by
  simp only [carryOut, h.check, h.settings, h.opened, work]

theorem result_carryOut_of_edits {settings : Settings} {file : OpenFile}
    (h : Ready arguments tree invocation settings file)
    (hedits : invocation.list = false ∧ invocation.dryRun = false) :
    (carryOut invocation tree).result =
      (edit (settings.plan invocation.declaration) ⟨file, tree⟩).result := by
  rw [result_carryOut h, work, serve, if_neg (by simp [hedits])]

theorem exists_result_print {plan : Plan} {desk : FileDesk}
    {found : Option (String × List Property)} (h : plan.properties? desk = .ok found)
    (invocation : Invocation) : ∃ output, (print invocation plan desk).result = .ok output := by
  rw [print, h]
  cases found with
  | none => exact ⟨_, rfl⟩
  | some => exact ⟨_, rfl⟩

theorem exists_result_edit_of_no_properties {plan : Plan} {desk : FileDesk}
    {found : Option (String × List Property)} (hfound : plan.properties? desk = .ok found)
    (h : ∀ declaration ps, found = some (declaration, ps) → ps = []) :
    ∃ output, (edit plan desk).result = .ok output := by
  obtain ⟨response, hcourse, hresult, -⟩ := course_edit plan desk
  rw [hresult]
  cases hcourse with
  | edited hfinds hne _ _ =>
    have hsome := Except.ok.inj (hfound.symm.trans (Plan.finds_iff.1 hfinds).1)
    exact absurd (h _ _ hsome) hne
  | noProperties _ _ hresponse => exact ⟨_, by rw [hresponse]; rfl⟩
  | noDocument _ _ hresponse => exact ⟨_, by rw [hresponse]; rfl⟩
  | failed hfails _ _ => cases hfound.symm.trans (Plan.fails_iff.1 hfails)

theorem Failed.exists_result (h : Failed arguments tree error) :
    ∃ invocation, CommandLine.read arguments = .ok invocation ∧
      (carryOut invocation tree).result = .error error := by
  cases h with
  | @refused invocation _ hread h => exact ⟨invocation, hread, by rw [carryOut, h]⟩
  | @unsettled invocation _ hread hcheck h =>
    exact ⟨invocation, hread, by simp only [carryOut, hcheck, h]⟩
  | @unopened invocation _ _ hread hcheck hsettings h =>
    exact ⟨invocation, hread, by simp only [carryOut, hcheck, hsettings, h]⟩
  | @unsaved invocation _ _ _ _ _ _ hready hedits hps hne hsave =>
    have hfinds := Plan.finds_iff.2 ⟨hps, rfl⟩
    have hresult := ((edit_of_finds hfinds hne rfl).2 _ hsave).2
    exact ⟨invocation, hready.read, (result_carryOut_of_edits hready hedits).trans hresult⟩
  | @unsearched invocation _ _ _ hready h =>
    exact ⟨invocation, hready.read,
      (result_carryOut hready).trans (result_serve_of_error h invocation)⟩

theorem Done.exists_result (h : Done arguments tree) :
    ∃ invocation output, CommandLine.read arguments = .ok invocation ∧
      (carryOut invocation tree).result = .ok output := by
  cases h with
  | @printed invocation settings file _ hready h hfound =>
    obtain ⟨output, hresult⟩ := exists_result_print hfound invocation
    refine ⟨invocation, output, hready.read, ?_⟩
    rw [result_carryOut hready, work, serve, if_pos (by simpa using h)]
    exact hresult
  | @empty invocation settings file _ hready hfound h =>
    obtain ⟨output, hresult⟩ : ∃ output, (serve invocation (settings.plan invocation.declaration)
        ⟨file, tree⟩).result = .ok output := by
      rw [serve]
      split
      · exact exists_result_print hfound invocation
      · exact exists_result_edit_of_no_properties hfound h
    exact ⟨invocation, output, hready.read, (result_carryOut hready).trans hresult⟩
  | @saved invocation _ _ _ _ _ hready hedits hps hne hsave =>
    have hfinds := Plan.finds_iff.2 ⟨hps, rfl⟩
    obtain ⟨-, hresult⟩ := (edit_of_finds hfinds hne rfl).1 hsave
    exact ⟨invocation, _, hready.read, (result_carryOut_of_edits hready hedits).trans hresult⟩

/-- **An invocation is done or has failed.** -/
theorem done_or_failed (hread : CommandLine.read arguments = .ok invocation) (tree : Files.Tree) :
    Done arguments tree ∨ ∃ error, Failed arguments tree error := by
  cases hcheck : invocation.check with
  | error error => exact .inr ⟨error, .refused hread hcheck⟩
  | ok =>
    cases hsettings : invocation.settings tree with
    | error error => exact .inr ⟨error, .unsettled hread hcheck hsettings⟩
    | ok settings =>
      cases hopen : OpenFile.open? tree invocation.file invocation.cursor with
      | error error => exact .inr ⟨error, .unopened hread hcheck hsettings hopen⟩
      | ok file =>
        have hready : Ready arguments tree invocation settings file :=
          ⟨hread, hcheck, hsettings, hopen⟩
        cases hfound : (settings.plan invocation.declaration).properties?
            (FileDesk.mk file tree) with
        | error error => exact .inr ⟨error, .unsearched hready hfound⟩
        | ok found =>
          by_cases hprint : invocation.list = true ∨ invocation.dryRun = true
          · exact .inl (.printed hready hprint hfound)
          by_cases hempty : ∀ declaration ps, found = some (declaration, ps) → ps = []
          · exact .inl (.empty hready hfound hempty)
          have hedits : invocation.list = false ∧ invocation.dryRun = false := by
            simpa [not_or] using hprint
          obtain ⟨declaration, ps, rfl, hne⟩ : ∃ declaration ps,
              found = some (declaration, ps) ∧ ps ≠ [] := by
            simpa using hempty
          rcases hsave : tree.save file.target
            (edited (settings.plan invocation.declaration) file ps).toUTF8 with ⟨_ | _, saved⟩
          · exact .inr ⟨_, .unsaved hready hedits hfound hne hsave⟩
          · exact .inl (.saved hready hedits hfound hne hsave)

/-! ## The report -/

theorem run_of_read (hread : CommandLine.read arguments = .ok invocation)
    (logFilter : Option String) (tree : Files.Tree) :
    run arguments logFilter tree =
      conclude invocation (.choose invocation.verbose logFilter) (carryOut invocation tree) := by
  rw [run, hread]

theorem Failed.report (h : Failed arguments tree error) (logFilter : Option String) :
    let report := run arguments logFilter tree
    report.exitCode = 1 ∧ report.output = "" ∧
      report.errors.getLast? = some (.plain ("❌ " ++ error.friendly)) := by
  obtain ⟨invocation, hread, hresult⟩ := h.exists_result
  rw [run_of_read hread, conclude, hresult]
  exact ⟨rfl, rfl, List.getLast?_concat⟩

theorem Done.exitCode_eq (h : Done arguments tree) (logFilter : Option String) :
    (run arguments logFilter tree).exitCode = 0 := by
  obtain ⟨invocation, output, hread, hresult⟩ := h.exists_result
  rw [run_of_read hread, conclude, hresult]

theorem exitCode_of_unread {fault : CommandLine.Fault}
    (hread : CommandLine.read arguments = .error fault) (logFilter : Option String)
    (tree : Files.Tree) : (run arguments logFilter tree).exitCode = fault.exitCode := by
  rw [run, hread]

theorem exitCode_eq_two {fault : CommandLine.Fault} (h : fault ≠ .help) : fault.exitCode = 2 := by
  cases fault with
  | help => exact absurd rfl h
  | _ => rfl

theorem exitCode_cases (arguments : List String) (logFilter : Option String) (tree : Files.Tree) :
    (run arguments logFilter tree).exitCode = 0 ∧
        (CommandLine.read arguments = .error .help ∨ Done arguments tree) ∨
      (run arguments logFilter tree).exitCode = 1 ∧ (∃ error, Failed arguments tree error) ∨
      (run arguments logFilter tree).exitCode = 2 ∧
        ∃ fault, CommandLine.read arguments = .error fault ∧ fault ≠ .help := by
  cases hread : CommandLine.read arguments with
  | error fault =>
    have hcode := exitCode_of_unread hread logFilter tree
    by_cases hhelp : fault = .help
    · subst hhelp
      exact .inl ⟨hcode, .inl rfl⟩
    · exact .inr (.inr ⟨hcode.trans (exitCode_eq_two hhelp), fault, rfl, hhelp⟩)
  | ok invocation =>
    rcases done_or_failed hread tree with hdone | ⟨error, hfailed⟩
    · exact .inl ⟨hdone.exitCode_eq logFilter, .inr hdone⟩
    · exact .inr (.inl ⟨(hfailed.report logFilter).1, error, hfailed⟩)

/-- **The exit code tells how the program ends.** It is zero if the program is done or was asked for
help, and one if it has failed after its arguments were read, which is then said to the user. It is
two if the arguments cannot be read. -/
theorem exitCode_iff (arguments : List String) (logFilter : Option String) (tree : Files.Tree) :
    let report := run arguments logFilter tree
    (report.exitCode = 0 ↔ CommandLine.read arguments = .error .help ∨ Done arguments tree) ∧
      (report.exitCode = 1 ↔ ∃ error, Failed arguments tree error) ∧
      (report.exitCode = 2 ↔ ∃ fault, CommandLine.read arguments = .error fault ∧ fault ≠ .help) ∧
      ∀ error, Failed arguments tree error → report.output = "" ∧
        report.errors.getLast? = some (.plain ("❌ " ++ error.friendly)) := by
  have hcases := exitCode_cases arguments logFilter tree
  have hdone : CommandLine.read arguments = .error .help ∨ Done arguments tree →
      (run arguments logFilter tree).exitCode = 0 := by
    rintro (hhelp | hdone)
    · exact exitCode_of_unread hhelp logFilter tree
    · exact hdone.exitCode_eq logFilter
  have hfailed : (∃ error, Failed arguments tree error) →
      (run arguments logFilter tree).exitCode = 1 := by
    rintro ⟨error, hfailed⟩
    exact (hfailed.report logFilter).1
  have hunread : (∃ fault, CommandLine.read arguments = .error fault ∧ fault ≠ .help) →
      (run arguments logFilter tree).exitCode = 2 := by
    rintro ⟨fault, hread, hhelp⟩
    exact (exitCode_of_unread hread logFilter tree).trans (exitCode_eq_two hhelp)
  refine ⟨⟨fun hcode => ?_, hdone⟩, ⟨fun hcode => ?_, hfailed⟩, ⟨fun hcode => ?_, hunread⟩, ?_⟩
  · rw [hcode] at hcases
    simpa using hcases
  · rw [hcode] at hcases
    simpa using hcases
  · rw [hcode] at hcases
    simpa using hcases
  · intro error hfailed
    exact (hfailed.report logFilter).2

theorem exitCode_iff_blockedDesk :
    let tree := FileDesk.blockedDesk.tree
    let report := run ["Foo.ts", "-l", "4"] none tree
    Failed ["Foo.ts", "-l", "4"] tree (.file .isDirectory) ∧ report.exitCode = 1 ∧
      report.output = "" ∧
      report.errors.getLast? = some (.plain ("❌ " ++ (Error.file .isDirectory).friendly)) := by
  have hready : Ready ["Foo.ts", "-l", "4"] FileDesk.blockedDesk.tree
      { file := "Foo.ts", line := 4 } {} FileDesk.blockedDesk.file := ⟨rfl, rfl, rfl, rfl⟩
  have hne : [(⟨"id", "number"⟩ : Property)] ≠ [] := by simp
  have hfound := (Plan.finds_iff.1 (FileDesk.finds_crlfDocument FileDesk.blockedDesk.tree)).1
  have hfailed : Failed ["Foo.ts", "-l", "4"] FileDesk.blockedDesk.tree (.file .isDirectory) :=
    .unsaved hready ⟨rfl, rfl⟩ hfound hne (by rfl)
  have hcodes := exitCode_iff ["Foo.ts", "-l", "4"] none FileDesk.blockedDesk.tree
  exact ⟨hfailed, hcodes.2.1.2 ⟨_, hfailed⟩, hcodes.2.2.2 _ hfailed⟩

/-- Arguments without a line number are refused while they are read. -/
theorem exitCode_of_no_line :
    CommandLine.read ["Foo.ts"] = .error .missing ∧
      (run ["Foo.ts"] none FileDesk.blockedDesk.tree).exitCode = 2 := by
  have hread : CommandLine.read ["Foo.ts"] = .error .missing := by rfl
  exact ⟨hread, exitCode_of_unread hread none _⟩

end Accessors.Program
