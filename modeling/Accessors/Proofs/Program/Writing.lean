import Accessors.Program
import Accessors.Proofs.Editor.OnDisk

/-!
# When the program writes

The work of the program begins once its arguments are read and accepted, the settings are put
together and the file is open (`Ready`). Before that nothing is written, work that only prints writes
nothing, and work that edits takes one of the courses of a run (`course_edit`). Where the program is
not `Idle` it makes one edit, by one save (`exists_edit_of_not_idle`, `edit_of_finds`).

So nothing is written at all where the program is idle. Where it fails, a file or a link under the
name of the sibling decides what becomes of the file (`run_frame`), and it may be lost (`run_lost`).
-/

namespace Accessors.Program

open Text

variable {arguments : List String} {tree : Files.Tree} {invocation : Invocation}
  {settings : Settings} {file : OpenFile}

/-! ## Before the work -/

/-- Whether the work of an invocation can begin. -/
structure Ready (arguments : List String) (tree : Files.Tree) (invocation : Invocation)
    (settings : Settings) (file : OpenFile) : Prop where
  read : CommandLine.read arguments = .ok invocation
  check : invocation.check = .ok ()
  settings : invocation.settings tree = .ok settings
  opened : OpenFile.open? tree invocation.file invocation.cursor = .ok file

/-- The work that an invocation asks for. -/
def work (invocation : Invocation) (settings : Settings) (file : OpenFile) (tree : Files.Tree) :
    Work :=
  serve invocation (settings.plan invocation.declaration) ⟨file, tree⟩

theorem tree_conclude (invocation : Invocation) (filter : Log.Filter) (work : Work) :
    (conclude invocation filter work).tree = work.tree := by
  rw [conclude]
  split <;> rfl

theorem tree_run_of_not_ready (logFilter : Option String)
    (h : ∀ invocation settings file, ¬ Ready arguments tree invocation settings file) :
    (run arguments logFilter tree).tree = tree := by
  rw [run]
  cases hread : CommandLine.read arguments with
  | error fault => rfl
  | ok invocation =>
    simp only [tree_conclude, carryOut]
    cases hcheck : invocation.check with
    | error error => rfl
    | ok =>
      cases hsettings : invocation.settings tree with
      | error error => rfl
      | ok settings =>
        cases hopen : OpenFile.open? tree invocation.file invocation.cursor with
        | error error => rfl
        | ok file => exact absurd ⟨hread, hcheck, hsettings, hopen⟩ (h invocation settings file)

theorem run_of_ready (logFilter : Option String)
    (h : Ready arguments tree invocation settings file) :
    let report := run arguments logFilter tree
    report.tree = (work invocation settings file tree).tree ∧
      match (work invocation settings file tree).result with
      | .ok output => report.exitCode = 0 ∧ report.output = output
      | .error _ => report.exitCode = 1 := by
  intro report
  have hreport : report = conclude invocation (.choose invocation.verbose logFilter)
      { work invocation settings file tree with
        notices := invocation.settingsNotices tree ++
          file.openedNotice :: (work invocation settings file tree).notices } := by
    simp only [report, run, h.read, carryOut, h.check, h.settings, h.opened, work]
  rw [hreport, tree_conclude]
  refine ⟨rfl, ?_⟩
  rw [conclude]
  cases (work invocation settings file tree).result with
  | error error => rfl
  | ok output => exact ⟨rfl, rfl⟩

/-! ## The work -/

theorem tree_print (invocation : Invocation) (plan : Plan) (desk : FileDesk) :
    (print invocation plan desk).tree = desk.tree := by
  rw [print]
  split <;> rfl

theorem course_edit (plan : Plan) (desk : FileDesk) :
    ∃ response : Response FileDesk Outcome, plan.Course desk response ∧
      (edit plan desk).result = response.result.map outcomeText ∧
      (edit plan desk).tree = response.editor.tree := by
  refine ⟨_, plan.course_command {} desk, ?_⟩
  rw [edit]
  cases ((Registry.install {} plan).run Registry.generateCommand desk).result with
  | error error => exact ⟨rfl, rfl⟩
  | ok outcome => exact ⟨rfl, rfl⟩

theorem edit_of_finds {plan : Plan} {desk : FileDesk} {declaration : String} {ps : List Property}
    {cursor : Position} (hfinds : plan.Finds desk declaration ps cursor) (hne : ps ≠ [])
    {text : String}
    (htext : desk.file.updated (plan.edit ps cursor).position (plan.edit ps cursor).fragments =
      text) {saved : Files.Tree} :
    (desk.tree.save desk.file.target text.toUTF8 = (.ok (), saved) →
      (edit plan desk).tree = saved ∧ (edit plan desk).result =
        .ok (outcomeText (.inserted declaration ps.length ⟨cursor.line, 0⟩))) ∧
    ∀ fault, desk.tree.save desk.file.target text.toUTF8 = (.error fault, saved) →
      (edit plan desk).tree = saved ∧ (edit plan desk).result = .error (.file fault) := by
  obtain ⟨response, hcourse, hresult, htree⟩ := course_edit plan desk
  obtain ⟨heditor, hresponse⟩ := hcourse.of_finds hfinds hne
  rw [htree, hresult, hresponse, heditor, ← htext]
  obtain ⟨fault, hanswer, hsave, -⟩ | ⟨hanswer, hsave, -⟩ :=
    FileDesk.perform_cases (plan.edit ps cursor) desk
  · rw [hsave, hanswer]
    refine ⟨fun h => (by cases h), ?_⟩
    intro fault' h
    obtain ⟨hfault, rfl⟩ := Prod.mk.inj h
    obtain rfl := Except.error.inj hfault
    exact ⟨rfl, rfl⟩
  · rw [hsave, hanswer]
    refine ⟨?_, fun fault h => by cases h⟩
    intro h
    obtain ⟨-, rfl⟩ := Prod.mk.inj h
    exact ⟨rfl, rfl⟩

theorem edit_of_finds_nil {plan : Plan} {desk : FileDesk} {declaration : String}
    {cursor : Position} (hfinds : plan.Finds desk declaration [] cursor) :
    (edit plan desk).tree = desk.tree ∧ (edit plan desk).result = .ok "" := by
  obtain ⟨response, hcourse, hresult, htree⟩ := course_edit plan desk
  obtain ⟨heditor, hresponse⟩ := hcourse.of_finds_nil hfinds
  rw [htree, hresult, hresponse, heditor]
  exact ⟨rfl, rfl⟩

theorem tree_edit_of_no_properties {plan : Plan} {desk : FileDesk}
    (h : ∀ declaration ps, plan.properties? desk = .ok (some (declaration, ps)) → ps = []) :
    (edit plan desk).tree = desk.tree := by
  obtain ⟨response, hcourse, -, htree⟩ := course_edit plan desk
  rw [htree]
  cases hcourse with
  | edited hfinds hne _ _ => exact absurd (h _ _ (Plan.finds_iff.1 hfinds).1) hne
  | noProperties _ heditor _ => rw [heditor]
  | noDocument _ heditor _ => rw [heditor]
  | failed _ heditor _ => rw [heditor]

theorem result_serve_of_error {plan : Plan} {desk : FileDesk} {error : Error}
    (h : plan.properties? desk = .error error) (invocation : Invocation) :
    (serve invocation plan desk).result = .error error := by
  rw [serve]
  split
  · rw [print, h]
  · obtain ⟨response, hcourse, hresult, -⟩ := course_edit plan desk
    rw [hresult, (hcourse.of_fails (Plan.fails_iff.2 h)).2]
    rfl

theorem toUTF8_injective {text text' : String} (h : text.toUTF8 = text'.toUTF8) : text = text' := by
  have h' := Files.Tree.fromUTF8?_eq_some_iff.2 h
  rw [Files.Tree.fromUTF8?_eq_some_iff.2 rfl] at h'
  exact Option.some.inj h'

theorem insert_block_ne (layout : Layout) {ps : List Property} (hne : ps ≠ [])
    (ending : LineEnding) (above below : String) :
    above ++ String.ofList (ending.spread (layout.block ps).toList) ++ below ≠ above ++ below := by
  intro h
  have hmem := mem_spread ending (layout.mem_block hne)
  have hlength := congrArg List.length (congrArg String.toList h)
  have hpos := List.length_pos_of_mem hmem
  simp only [String.toList_append, String.toList_ofList, List.length_append] at hlength
  omega

theorem updated_edit_ne {plan : Plan} {desk : FileDesk} {declaration : String} {ps : List Property}
    {cursor : Position} (hfinds : plan.Finds desk declaration ps cursor) (hne : ps ≠ []) :
    desk.file.updated (plan.edit ps cursor).position (plan.edit ps cursor).fragments ≠
      desk.file.text := by
  obtain ⟨above, below, htext, hcut⟩ := exists_lineCut cursor.line.toNat desk.file.text
  have hupdated := OpenFile.updated_block plan.layout (hfinds.isOneLine rfl) htext hcut
  have hdiffers := insert_block_ne plan.layout hne desk.file.ending above below
  rw [htext, ← hupdated] at hdiffers
  exact hdiffers

/-! ## What is written -/

/-- Whether the program has nothing to write: it does not come to its work, it is asked to print
only, or it finds no properties, be it that the declaration cannot be looked for. -/
inductive Idle (arguments : List String) (tree : Files.Tree) : Prop
  | unread {fault : CommandLine.Fault} (h : CommandLine.read arguments = .error fault)
  | refused {invocation : Invocation} {error : Error}
      (hread : CommandLine.read arguments = .ok invocation) (h : invocation.check = .error error)
  | unsettled {invocation : Invocation} {error : Error}
      (hread : CommandLine.read arguments = .ok invocation)
      (h : invocation.settings tree = .error error)
  | unopened {invocation : Invocation} {error : Error}
      (hread : CommandLine.read arguments = .ok invocation)
      (h : OpenFile.open? tree invocation.file invocation.cursor = .error error)
  | printing {invocation : Invocation} (hread : CommandLine.read arguments = .ok invocation)
      (h : invocation.list = true ∨ invocation.dryRun = true)
  | empty {invocation : Invocation} {settings : Settings} {file : OpenFile}
      (hready : Ready arguments tree invocation settings file)
      (h : ∀ declaration ps, (settings.plan invocation.declaration).properties?
        (FileDesk.mk file tree) = .ok (some (declaration, ps)) → ps = [])

theorem tree_serve_of_printing (h : invocation.list = true ∨ invocation.dryRun = true)
    (plan : Plan) (desk : FileDesk) : (serve invocation plan desk).tree = desk.tree := by
  have hprint : (invocation.list || invocation.dryRun) = true := by simpa using h
  rw [serve, if_pos hprint, tree_print]

theorem Idle.tree_work (h : Idle arguments tree)
    (hready : Ready arguments tree invocation settings file) :
    (work invocation settings file tree).tree = tree := by
  cases h with
  | unread h => cases hready.read.symm.trans h
  | refused hread h =>
    obtain rfl := Except.ok.inj (hready.read.symm.trans hread)
    cases hready.check.symm.trans h
  | unsettled hread h =>
    obtain rfl := Except.ok.inj (hready.read.symm.trans hread)
    cases hready.settings.symm.trans h
  | unopened hread h =>
    obtain rfl := Except.ok.inj (hready.read.symm.trans hread)
    cases hready.opened.symm.trans h
  | printing hread h =>
    obtain rfl := Except.ok.inj (hready.read.symm.trans hread)
    exact tree_serve_of_printing h _ _
  | empty hready' h =>
    obtain rfl := Except.ok.inj (hready.read.symm.trans hready'.read)
    obtain rfl := Except.ok.inj (hready.settings.symm.trans hready'.settings)
    obtain rfl := Except.ok.inj (hready.opened.symm.trans hready'.opened)
    rw [work, serve]
    split
    · rw [tree_print]
    · exact tree_edit_of_no_properties h

theorem exists_edit_of_not_idle (h : ¬ Idle arguments tree) :
    ∃ invocation settings file declaration ps, Ready arguments tree invocation settings file ∧
      work invocation settings file tree =
        edit (settings.plan invocation.declaration) ⟨file, tree⟩ ∧
      (settings.plan invocation.declaration).Finds (FileDesk.mk file tree) declaration ps
        file.cursor ∧ ps ≠ [] := by
  cases hread : CommandLine.read arguments with
  | error fault => exact absurd (.unread hread) h
  | ok invocation =>
    cases hcheck : invocation.check with
    | error error => exact absurd (.refused hread hcheck) h
    | ok =>
      cases hsettings : invocation.settings tree with
      | error error => exact absurd (.unsettled hread hsettings) h
      | ok settings =>
        cases hopen : OpenFile.open? tree invocation.file invocation.cursor with
        | error error => exact absurd (.unopened hread hopen) h
        | ok file =>
          have hready : Ready arguments tree invocation settings file :=
            ⟨hread, hcheck, hsettings, hopen⟩
          have hedits : ¬ (invocation.list = true ∨ invocation.dryRun = true) :=
            fun hprint => h (.printing hread hprint)
          obtain ⟨declaration, ps, hps, hne⟩ : ∃ declaration ps,
              (settings.plan invocation.declaration).properties? (FileDesk.mk file tree) =
                .ok (some (declaration, ps)) ∧ ps ≠ [] := by
            by_contra hnone
            refine h (.empty hready fun declaration ps hps => ?_)
            by_contra hne
            exact hnone ⟨declaration, ps, hps, hne⟩
          refine ⟨invocation, settings, file, declaration, ps, hready, ?_,
            Plan.finds_iff.2 ⟨hps, rfl⟩, hne⟩
          rw [work, serve, if_neg (by simpa using hedits)]

theorem tree_run_of_idle (h : Idle arguments tree) (logFilter : Option String) :
    (run arguments logFilter tree).tree = tree := by
  by_cases hstart : ∃ invocation settings file, Ready arguments tree invocation settings file
  · obtain ⟨invocation, settings, file, hready⟩ := hstart
    exact (run_of_ready logFilter hready).1.trans (h.tree_work hready)
  · refine tree_run_of_not_ready logFilter fun invocation settings file hready => ?_
    exact hstart ⟨invocation, settings, file, hready⟩

theorem exists_save_error (h : ¬ Idle arguments tree) {logFilter : Option String}
    (hcode : (run arguments logFilter tree).exitCode ≠ 0) :
    ∃ invocation settings file text fault, Ready arguments tree invocation settings file ∧
      text ≠ file.text ∧ tree.save file.target text.toUTF8 =
        (.error fault, (run arguments logFilter tree).tree) := by
  obtain ⟨invocation, settings, file, declaration, ps, hready, hwork, hfinds, hne⟩ :=
    exists_edit_of_not_idle h
  obtain ⟨htree, hreport⟩ := run_of_ready logFilter hready
  rw [hwork] at htree hreport
  have hdiffers := updated_edit_ne hfinds hne
  generalize htext : (FileDesk.mk file tree).file.updated _ _ = text at hdiffers
  refine ⟨invocation, settings, file, text, ?_⟩
  rcases hsave : tree.save file.target text.toUTF8 with ⟨fault | _, after⟩
  · obtain ⟨hafter, -⟩ := (edit_of_finds hfinds hne htext).2 fault hsave
    exact ⟨fault, hready, hdiffers, by rw [htree, hafter]⟩
  · obtain ⟨-, hresult⟩ := (edit_of_finds hfinds hne htext).1 hsave
    rw [hresult] at hreport
    exact absurd hreport.1 hcode

/-- **When the program writes.** Where it is idle, the files are what they were. Where it fails, the
path still leads to the file, and the file has the same bytes and the same mode, exactly if it was
not written to by way of the sibling and the path does without what was taken away as the sibling;
and with neither a file nor a link under the name of the sibling, nothing has changed at all. A path
that does not start at the root starts in the working directory, which has to be one that its own
names lead to. -/
theorem run_frame (arguments : List String) (logFilter : Option String) (tree : Files.Tree) :
    (Idle arguments tree → (run arguments logFilter tree).tree = tree) ∧
      ((run arguments logFilter tree).exitCode ≠ 0 → ∀ invocation location bytes mode,
        CommandLine.read arguments = .ok invocation →
        (Files.Path.isAbsolute invocation.file = true ∨ tree.Reached tree.workingDirectory) →
        tree.resolve? invocation.file = .ok location →
        tree.lookup? location = some (.file bytes mode) →
        let after := (run arguments logFilter tree).tree
        (after.resolve? invocation.file = .ok location ∧
            after.lookup? location = some (.file bytes mode) ↔
          Idle arguments tree ∨ ¬ tree.Overwrites location location ∧
            ∀ found, tree.Discards location found →
              (tree.erase found).resolve? invocation.file = .ok location) ∧
        (tree.HasNoSibling location → tree.Alike after)) := by
  refine ⟨fun hidle => tree_run_of_idle hidle logFilter, ?_⟩
  intro hcode invocation location bytes mode hread hhome hresolve hentry after
  by_cases hidle : Idle arguments tree
  · have hsame : after = tree := tree_run_of_idle hidle logFilter
    rw [hsame]
    exact ⟨iff_of_true ⟨hresolve, hentry⟩ (.inl hidle), fun _ => .refl tree⟩
  · obtain ⟨invocation', settings, file, text, fault, hready, hne, hsave⟩ :=
      exists_save_error hidle hcode
    obtain rfl := Except.ok.inj (hread.symm.trans hready.read)
    obtain rfl := Except.ok.inj (hresolve.symm.trans (OpenFile.resolve?_of_open? hready.opened))
    have hreached : tree.Reached file.target :=
      (Files.Tree.resolve?_eq_ok_iff.1 hresolve).2.reached (Files.Tree.reached_start hhome)
    have hdiffers : text.toUTF8 ≠ bytes := by
      obtain ⟨hopened, -⟩ := OpenFile.of_open? hready.opened
      obtain ⟨location', mode', hresolve', hentry', -⟩ := Files.Tree.readText?_eq_ok_iff.1 hopened
      obtain rfl := Except.ok.inj (hresolve.symm.trans hresolve')
      obtain ⟨rfl, -⟩ := Files.Entry.file.inj (Option.some.inj (hentry'.symm.trans hentry))
      exact fun heq => hne (toUTF8_injective heq)
    constructor
    · rw [Files.Tree.resolve?_of_save_error_iff hreached hentry hresolve hsave,
        or_iff_right hdiffers, or_iff_right hidle]
    · exact fun hnone => Files.Tree.alike_of_save_error hnone hsave

theorem run_frame_blockedDesk :
    let tree := FileDesk.blockedDesk.tree
    (Idle ["--list", "Foo.ts", "-l", "4"] tree ∧
        (run ["--list", "Foo.ts", "-l", "4"] none tree).tree = tree) ∧
      (run ["Foo.ts", "-l", "4"] none tree).exitCode = 1 ∧
      tree.resolve? "Foo.ts" = .ok ["Foo.ts"] ∧ tree.HasNoSibling ["Foo.ts"] ∧
      (run ["Foo.ts", "-l", "4"] none tree).tree.lookup? ["Foo.ts"] =
        some (.file FileDesk.crlfDocument.toUTF8 0o644) := by
  have hlist : CommandLine.read ["--list", "Foo.ts", "-l", "4"] =
      .ok { file := "Foo.ts", line := 4, list := true } := by rfl
  have hread : CommandLine.read ["Foo.ts", "-l", "4"] = .ok { file := "Foo.ts", line := 4 } := by
    rfl
  have hcode : (run ["Foo.ts", "-l", "4"] none FileDesk.blockedDesk.tree).exitCode = 1 := by rfl
  have hresolve : FileDesk.blockedDesk.tree.resolve? "Foo.ts" = .ok ["Foo.ts"] := by rfl
  have hentry : FileDesk.blockedDesk.tree.lookup? ["Foo.ts"] =
      some (.file FileDesk.crlfDocument.toUTF8 0o644) := by rfl
  have hhome : FileDesk.blockedDesk.tree.Reached FileDesk.blockedDesk.tree.workingDirectory := .root
  have hnone : FileDesk.blockedDesk.tree.HasNoSibling ["Foo.ts"] := by
    intro found entry hname hsome
    obtain rfl : ["Foo.ts.accessor-gen.tmp"] = found := Except.ok.inj hname
    exact (Option.some.inj hsome).symm
  have hidle : Idle ["--list", "Foo.ts", "-l", "4"] FileDesk.blockedDesk.tree :=
    .printing hlist (.inl rfl)
  obtain ⟨-, halike⟩ := (run_frame ["Foo.ts", "-l", "4"] none FileDesk.blockedDesk.tree).2
    (by rw [hcode]; decide) _ _ _ _ hread (.inr hhome) hresolve hentry
  exact ⟨⟨hidle, (run_frame _ none _).1 hidle⟩, hcode, hresolve, hnone,
    ((halike hnone).lookup? ["Foo.ts"]).trans hentry⟩

/-- A file that may not be written, and a link to it under the name of its sibling. -/
def sealedTree : Files.Tree :=
  (Files.Tree.put {} ["Foo.ts"] (.file FileDesk.crlfDocument.toUTF8 0o444)).put
    ["Foo.ts.accessor-gen.tmp"] (.link "Foo.ts")

/-- **Where the program fails the file may be lost**: the link by which it was opened is taken away
as the sibling, or the file is changed by way of the sibling, which then cannot be renamed. -/
theorem run_lost :
    let path := "Foo.ts.accessor-gen.tmp"
    let report := run [path, "-l", "4", "--interface", "Foo"] none sealedTree
    let locked := run ["Foo.ts", "-l", "4"] none FileDesk.lockedDesk.tree
    (report.exitCode = 1 ∧ sealedTree.resolve? path = .ok ["Foo.ts"] ∧
        report.tree.resolve? path = .error .notFound) ∧
      locked.exitCode = 1 ∧ FileDesk.lockedDesk.tree.resolve? "Foo.ts" = .ok ["Foo.ts"] ∧
      FileDesk.lockedDesk.tree.lookup? ["Foo.ts"] =
        some (.file FileDesk.crlfDocument.toUTF8 0o644) ∧
      ∃ text, text ≠ FileDesk.crlfDocument ∧
        locked.tree.lookup? ["Foo.ts"] = some (.file text.toUTF8 0o644) := by
  have hdiffers := updated_edit_ne (FileDesk.finds_crlfDocument FileDesk.lockedDesk.tree) (by simp)
  exact ⟨⟨by rfl, by rfl, by rfl⟩, by rfl, by rfl, by rfl, _, hdiffers, by rfl⟩

end Accessors.Program
