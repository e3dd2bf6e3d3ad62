import Accessors.Proofs.Declaration.Name
import Accessors.Proofs.Editor.OnDisk
import Accessors.Proofs.Json.RoundTrip
import Accessors.Proofs.Program.Writing

/-!
# The modes of the program

In a file that is open there is a declaration to look for (`finds_or_fails`), and the three modes
find the same properties of it. What is listed is read back as these properties, what is shown is their
block, and what is put in is that block at the start of the line, by one save (`edit_of_finds`).
The file has it then exactly if no link stands under the name of its sibling
(`written_of_save_ok`).
-/

namespace Accessors.Program

open Text

variable {arguments : List String} {tree : Files.Tree} {invocation : Invocation}
  {settings : Settings} {file : OpenFile}

/-! ## Lines that are counted from one -/

theorem one_le_line_of_check (h : invocation.check = .ok ()) : 1 ≤ invocation.line.toNat := by
  rw [Invocation.check] at h
  cases hpath : Check.path "file" invocation.file with
  | error error =>
    rw [hpath] at h
    cases h
  | ok =>
    rw [hpath] at h
    cases hline : Check.atLeast "line" 1 invocation.line.toNat with
    | error error =>
      simp only [hline, bind, Except.bind] at h
      cases h
    | ok =>
      rw [Check.atLeast] at hline
      split at hline
      · cases hline
      · omega

theorem fromZero_add_one {number : UInt32} (h : 1 ≤ number.toNat) :
    Invocation.fromZero number + 1 = number := by
  have hne : number ≠ 0 := by
    rintro rfl
    simp at h
  rw [Invocation.fromZero, if_neg hne, UInt32.sub_add_cancel]

theorem toNat_fromZero (number : UInt32) :
    (Invocation.fromZero number).toNat = number.toNat - 1 := by
  rw [Invocation.fromZero]
  split
  · rename_i hzero
    rw [hzero]
    rfl
  · rename_i hne
    have hle : 1 ≤ number := by
      rw [UInt32.le_iff_toNat_le]
      have hnat : number.toNat ≠ 0 := fun h => hne (UInt32.toNat_inj.1 h)
      show 1 ≤ number.toNat
      omega
    exact UInt32.toNat_sub_of_le number 1 hle

theorem toNat_fromZero_add_one_lt (number : UInt32) :
    (Invocation.fromZero number).toNat + 1 < UInt32.size := by
  have hlt : number.toNat < UInt32.size := number.toNat_lt_size
  have hone : 1 < UInt32.size := by decide
  rw [toNat_fromZero]
  omega

/-! ## What there is to do -/

theorem exists_declarationOf? (plan : Plan) {path : String} (h : Declaration.name? path ≠ none) :
    ∃ declaration, plan.declarationOf? path = some declaration := by
  obtain ⟨name, hname⟩ := Option.ne_none_iff_exists'.1 h
  rw [Plan.declarationOf?, hname]
  cases plan.declaration with
  | none => exact ⟨name, rfl⟩
  | some declaration => exact ⟨declaration, rfl⟩

theorem properties?_of_declarationOf? {plan : Plan} {desk : FileDesk} {declaration : String}
    (h : plan.declarationOf? desk.file.path = some declaration) :
    plan.properties? desk = (plan.query.extract (linesOf desk.file.text) declaration).map
      fun ps => some (declaration, ps) := by
  have hsubject : plan.subject? desk = some (linesOf desk.file.text, declaration) :=
    Plan.subject?_eq_some_iff.2 ⟨rfl, desk.file.path, rfl, h⟩
  rw [Plan.properties?, hsubject]

/-- **In a file that is open there is always a declaration to look for**, and that comes to its
properties or to an error. -/
theorem finds_or_fails {path : String} {cursor : Position}
    (hopen : OpenFile.open? tree path cursor = .ok file)
    (hhome : Files.Path.isAbsolute path = true ∨ tree.Reached tree.workingDirectory)
    (plan : Plan) :
    (∃ declaration ps, plan.Finds (FileDesk.mk file tree) declaration ps cursor) ∨
      ∃ error, plan.properties? (FileDesk.mk file tree) = .error error := by
  obtain ⟨hread, rfl, rfl, -⟩ := OpenFile.of_open? hopen
  obtain ⟨declaration, hdeclaration⟩ :=
    exists_declarationOf? plan (Declaration.name?_of_readText? hread hhome)
  cases hps : plan.query.extract (linesOf file.text) declaration with
  | ok ps => exact .inl ⟨declaration, ps, _, file.path, rfl, rfl, hdeclaration, rfl, hps⟩
  | error error =>
    have hfails : plan.properties? (FileDesk.mk file tree) = _ :=
      properties?_of_declarationOf? hdeclaration
    rw [hps] at hfails
    exact .inr ⟨error, hfails⟩

theorem result_print {plan : Plan} {desk : FileDesk} {declaration : String} {ps : List Property}
    (h : plan.properties? desk = .ok (some (declaration, ps))) :
    (print invocation plan desk).result = .ok (preview invocation plan ps) := by
  rw [print, h]

/-- **What is listed is read back**, whatever characters the names and the types have: the list by
itself, and the list as it is printed. -/
theorem ofJson?_preview (ps : List Property) :
    Property.ofJson? (Property.listToJson ps) = some ps ∧
      ∀ (invocation : Invocation) (plan : Plan),
        Property.ofJson? (preview { invocation with list := true } plan ps) = some ps := by
  have hnone : ∀ c ∈ "".toList, Json.isSpace c = true := List.all_eq_true.1 rfl
  have hfeed : ∀ c ∈ "\n".toList, Json.isSpace c = true := List.all_eq_true.1 rfl
  constructor
  · have hread := Property.ofJson?_listToJson ps hnone
    rwa [String.append_empty] at hread
  · intro invocation plan
    rw [preview, if_pos rfl]
    exact Property.ofJson?_listToJson ps hfeed

/-! ## The file that is written -/

/-- What there is after a text was saved in the place of a file that is open: the files are not what
they were; the file has the text exactly if no link stands under the name of the sibling, and then
its path reads as that text. -/
structure Written (tree : Files.Tree) (file : OpenFile) (text : String) (saved : Files.Tree) :
    Prop where
  changed : saved ≠ tree
  file_iff : (∃ mode, saved.lookup? file.target = some (.file text.toUTF8 mode)) ↔
    tree.HasNoSiblingLink file.target
  read : tree.HasNoSiblingLink file.target → saved.readText? file.path = .ok text

theorem written_of_save_ok {path : String} {cursor : Position}
    (hopen : OpenFile.open? tree path cursor = .ok file)
    (hhome : Files.Path.isAbsolute path = true ∨ tree.Reached tree.workingDirectory)
    {text : String} (hne : text ≠ file.text) {saved : Files.Tree}
    (hsave : tree.save file.target text.toUTF8 = (.ok (), saved)) :
    Written tree file text saved := by
  obtain ⟨hread, rfl, -, -⟩ := OpenFile.of_open? hopen
  have hresolve := OpenFile.resolve?_of_open? hopen
  obtain ⟨location, mode, hresolve', hentry, hreadable⟩ := Files.Tree.readText?_eq_ok_iff.1 hread
  obtain rfl := Except.ok.inj (hresolve.symm.trans hresolve')
  have hreached : tree.Reached file.target :=
    (Files.Tree.resolve?_eq_ok_iff.1 hresolve).2.reached (Files.Tree.reached_start hhome)
  refine ⟨?_, Files.Tree.lookup?_target_of_save_ok_iff hreached hentry hsave, ?_⟩
  · -- a link under the name of the sibling is gone, and without one the file has changed
    rintro rfl
    have hnone : saved.HasNoSiblingLink file.target := by
      intro found link hname hlink
      obtain ⟨staged, found', place, entry, hstaged, -, hne', heq⟩ :=
        Files.Tree.exists_staged_of_save_ok hreached hentry hsave
      obtain rfl := Except.ok.inj (hstaged.name.symm.trans hname)
      rw [heq, Files.Tree.lookup?_put_of_ne _ hne',
        Files.Tree.lookup?_erase_self _ hstaged.ne_nil] at hlink
      cases hlink
    have hwritten := Files.Tree.lookup?_target_of_save_ok hreached hentry hsave hnone
    have hfile := Files.Entry.file.inj (Option.some.inj (hwritten.symm.trans hentry))
    exact hne (toUTF8_injective hfile.1)
  · intro hnone
    have hwritten := Files.Tree.lookup?_target_of_save_ok hreached hentry hsave hnone
    have hleads := Files.Tree.resolve?_of_save_ok hreached hentry hsave hnone hresolve
    exact Files.Tree.readText?_eq_ok_iff.2 ⟨file.target, _, hleads, hwritten, hreadable⟩

/-! ## Three runs -/

/-- What three runs come to that differ in their mode only: one that lists the properties of a file
that is open, one that shows their accessors, and one that puts them in at a line, counted from
one. -/
structure Agree (tree : Files.Tree) (file : OpenFile) (layout : Layout) (line : Nat)
    (declaration : String) (ps : List Property) (listing preview plain : Report) : Prop where
  /-- The list is that of the properties. -/
  listing : listing.exitCode = 0 ∧ Property.ofJson? listing.output = some ps ∧
    listing.tree = tree
  /-- The accessors are their block, with a line break. -/
  preview : preview.exitCode = 0 ∧
    preview.output = (if ps = [] then "" else layout.block ps ++ "\n") ∧ preview.tree = tree
  /-- Without properties there is nothing to do. -/
  empty : ps = [] → plain.exitCode = 0 ∧ plain.output = "" ∧ plain.tree = tree
  /-- Otherwise the block goes in at the start of the line, in the line ending of the document. -/
  inserted : ps ≠ [] → ∃ above below : String, above ++ below = file.text ∧
    LineCut (line - 1) above.toList below.toList ∧
    let text := above ++ String.ofList (file.ending.spread (layout.block ps).toList) ++ below
    (∀ saved, tree.save file.target text.toUTF8 = (.ok (), saved) →
      plain.exitCode = 0 ∧ plain.tree = saved ∧ Written tree file text saved ∧
        plain.output = "✅ Inserted accessors for " ++ toString ps.length ++ " properties of " ++
          declaration ++ " at line " ++ toString line ++ "\n") ∧
    ∀ fault saved, tree.save file.target text.toUTF8 = (.error fault, saved) →
      plain.exitCode = 1 ∧ plain.tree = saved
  /-- A run that succeeds writes nothing exactly if there are no properties. -/
  unchanged_iff : plain.exitCode = 0 → (plain.tree = tree ↔ ps = [])

section Ready

variable (logFilter : Option String) (hready : Ready arguments tree invocation settings file)
include hready

theorem run_of_print (hprint : invocation.list = true ∨ invocation.dryRun = true)
    {declaration : String} {ps : List Property}
    (hps : (settings.plan invocation.declaration).properties? (FileDesk.mk file tree) =
      .ok (some (declaration, ps))) :
    (run arguments logFilter tree).exitCode = 0 ∧
      (run arguments logFilter tree).output =
        preview invocation (settings.plan invocation.declaration) ps ∧
      (run arguments logFilter tree).tree = tree := by
  obtain ⟨htree, hreport⟩ := run_of_ready logFilter hready
  have hwork : work invocation settings file tree =
      print invocation (settings.plan invocation.declaration) ⟨file, tree⟩ := by
    rw [work, serve, if_pos (by simpa using hprint)]
  rw [hwork, result_print hps] at hreport
  rw [hwork, tree_print] at htree
  exact ⟨hreport.1, hreport.2, htree⟩

theorem run_of_error {error : Error} (hps : (settings.plan invocation.declaration).properties?
      (FileDesk.mk file tree) = .error error) :
    (run arguments logFilter tree).exitCode = 1 ∧ (run arguments logFilter tree).tree = tree := by
  have hidle : Idle arguments tree := .empty hready (by simp [hps])
  have hresult : (work invocation settings file tree).result = .error error :=
    result_serve_of_error hps invocation
  obtain ⟨-, hreport⟩ := run_of_ready logFilter hready
  rw [hresult] at hreport
  exact ⟨hreport, tree_run_of_idle hidle logFilter⟩

variable (hedits : invocation.list = false ∧ invocation.dryRun = false)
include hedits

theorem run_of_edit :
    (run arguments logFilter tree).tree =
        (edit (settings.plan invocation.declaration) ⟨file, tree⟩).tree ∧
      match (edit (settings.plan invocation.declaration) ⟨file, tree⟩).result with
      | .ok output => (run arguments logFilter tree).exitCode = 0 ∧
          (run arguments logFilter tree).output = output
      | .error _ => (run arguments logFilter tree).exitCode = 1 := by
  have hwork : work invocation settings file tree =
      edit (settings.plan invocation.declaration) ⟨file, tree⟩ := by
    rw [work, serve, if_neg (by simp [hedits])]
  rw [← hwork]
  exact run_of_ready logFilter hready

theorem exists_inserted
    (hhome : Files.Path.isAbsolute invocation.file = true ∨ tree.Reached tree.workingDirectory)
    {declaration : String} {ps : List Property}
    (hfinds : (settings.plan invocation.declaration).Finds (FileDesk.mk file tree) declaration ps
      invocation.cursor) (hne : ps ≠ []) :
    ∃ above below : String, above ++ below = file.text ∧
      LineCut (invocation.line.toNat - 1) above.toList below.toList ∧
      let text := above ++ String.ofList
        (file.ending.spread ((settings.plan invocation.declaration).layout.block ps).toList) ++ below
      let plain := run arguments logFilter tree
      (∀ saved, tree.save file.target text.toUTF8 = (.ok (), saved) →
        plain.exitCode = 0 ∧ plain.tree = saved ∧ Written tree file text saved ∧
          plain.output = "✅ Inserted accessors for " ++ toString ps.length ++ " properties of " ++
            declaration ++ " at line " ++ toString invocation.line.toNat ++ "\n") ∧
      ∀ fault saved, tree.save file.target text.toUTF8 = (.error fault, saved) →
        plain.exitCode = 1 ∧ plain.tree = saved := by
  obtain ⟨above, below, htext, hcut⟩ := exists_lineCut invocation.cursor.line.toNat file.text
  have hupdated := OpenFile.updated_block (settings.plan invocation.declaration).layout
    (hfinds.isOneLine rfl) htext hcut
  have hdiffers := insert_block_ne (settings.plan invocation.declaration).layout hne file.ending
    above below
  rw [htext] at hdiffers
  obtain ⟨htree, hreport⟩ := run_of_edit logFilter hready hedits
  refine ⟨above, below, htext, by rwa [← toNat_fromZero], ?_⟩
  intro text plain
  constructor
  · intro saved hsave
    obtain ⟨hsaved, hresult⟩ := (edit_of_finds hfinds hne hupdated).1 hsave
    rw [hresult] at hreport
    refine ⟨hreport.1, htree.trans hsaved, written_of_save_ok hready.opened hhome hdiffers hsave, ?_⟩
    have hline : invocation.cursor.line + 1 = invocation.line :=
      fromZero_add_one (one_le_line_of_check hready.check)
    rw [hreport.2, ← hline]
    rfl
  · intro fault saved hsave
    obtain ⟨hsaved, hresult⟩ := (edit_of_finds hfinds hne hupdated).2 fault hsave
    rw [hresult] at hreport
    exact ⟨hreport, htree.trans hsaved⟩

end Ready

section Agree

variable {listing preview plain : List String} {dry : Bool}
  (hplain : Ready plain tree invocation settings file)
  (hedits : invocation.list = false ∧ invocation.dryRun = false)
  (hlisted : Ready listing tree { invocation with list := true, dryRun := dry } settings file)
  (hpreviewed : Ready preview tree { invocation with dryRun := true } settings file)
  (hhome : Files.Path.isAbsolute invocation.file = true ∨ tree.Reached tree.workingDirectory)
  (logFilter : Option String)
include hplain hedits hlisted hpreviewed hhome

/-- Where a declaration can be looked for, the three modes agree. -/
theorem agree_of_finds {declaration : String} {ps : List Property}
    (hfinds : (settings.plan invocation.declaration).Finds (FileDesk.mk file tree) declaration ps
      invocation.cursor) :
    Agree tree file (settings.plan invocation.declaration).layout invocation.line.toNat declaration ps
      (run listing logFilter tree) (run preview logFilter tree) (run plain logFilter tree) := by
  have hps := (Plan.finds_iff.1 hfinds).1
  obtain ⟨hlistCode, hlistOutput, hlistTree⟩ := run_of_print logFilter hlisted (.inl rfl) hps
  obtain ⟨hpreviewCode, hpreviewOutput, hpreviewTree⟩ :=
    run_of_print logFilter hpreviewed (.inr rfl) hps
  have hinserted := exists_inserted logFilter hplain hedits hhome hfinds
  have hempty : ps = [] → (run plain logFilter tree).exitCode = 0 ∧
      (run plain logFilter tree).output = "" ∧ (run plain logFilter tree).tree = tree := by
    rintro rfl
    obtain ⟨hsame, hresult⟩ := edit_of_finds_nil hfinds
    obtain ⟨htree, hreport⟩ := run_of_edit logFilter hplain hedits
    rw [hresult] at hreport
    exact ⟨hreport.1, hreport.2, htree.trans hsame⟩
  refine ⟨⟨hlistCode, ?_, hlistTree⟩, ⟨hpreviewCode, ?_, hpreviewTree⟩, hempty, hinserted, ?_⟩
  · rw [hlistOutput]
    exact Property.ofJson?_listToJson ps (List.all_eq_true.1 rfl)
  · rw [hpreviewOutput, Program.preview]
    simp only [hedits.1, Bool.false_eq_true, if_false, List.isEmpty_iff]
  · intro hcode
    refine ⟨fun hsame => ?_, fun hnil => (hempty hnil).2.2⟩
    by_contra hne
    obtain ⟨above, below, -, -, hsaved, hfailed⟩ := hinserted hne
    rcases hsave : tree.save file.target (above ++ String.ofList (file.ending.spread
      ((settings.plan invocation.declaration).layout.block ps).toList) ++ below).toUTF8 with
      ⟨_ | _, saved⟩
    · rw [(hfailed _ saved hsave).1] at hcode
      cases hcode
    · obtain ⟨-, htree, hwritten, -⟩ := hsaved saved hsave
      exact hwritten.changed (htree.symm.trans hsame)

end Agree

/-- **The three modes of the program agree** on what is found in a file that is open, and the plain
run puts in what the others show, unless the declaration cannot be looked for, which is an error in
all of them. A path that does not start at the root starts in the working directory, which has to be
one that its own names lead to. -/
theorem modes_agree {listing preview plain : List String} {dry : Bool}
    (hplain : Ready plain tree invocation settings file)
    (hedits : invocation.list = false ∧ invocation.dryRun = false)
    (hlisting : CommandLine.read listing = .ok { invocation with list := true, dryRun := dry })
    (hpreview : CommandLine.read preview = .ok { invocation with dryRun := true })
    (hhome : Files.Path.isAbsolute invocation.file = true ∨ tree.Reached tree.workingDirectory)
    (logFilter : Option String) :
    (∃ declaration ps,
      (settings.plan invocation.declaration).properties? (FileDesk.mk file tree) =
        .ok (some (declaration, ps)) ∧
      Agree tree file (settings.plan invocation.declaration).layout invocation.line.toNat
        declaration ps (run listing logFilter tree) (run preview logFilter tree)
        (run plain logFilter tree)) ∨
    ∃ error, (settings.plan invocation.declaration).properties? (FileDesk.mk file tree) =
        .error error ∧
      ∀ arguments ∈ [listing, preview, plain], (run arguments logFilter tree).exitCode = 1 ∧
        (run arguments logFilter tree).tree = tree := by
  have hlisted : Ready listing tree { invocation with list := true, dryRun := dry } settings file :=
    ⟨hlisting, hplain.check, hplain.settings, hplain.opened⟩
  have hpreviewed : Ready preview tree { invocation with dryRun := true } settings file :=
    ⟨hpreview, hplain.check, hplain.settings, hplain.opened⟩
  obtain ⟨declaration, ps, hfinds⟩ | ⟨error, herror⟩ :=
    finds_or_fails hplain.opened hhome (settings.plan invocation.declaration)
  · exact .inl ⟨declaration, ps, (Plan.finds_iff.1 hfinds).1,
      agree_of_finds hplain hedits hlisted hpreviewed hhome logFilter hfinds⟩
  · refine .inr ⟨error, herror, ?_⟩
    simp only [List.forall_mem_cons]
    exact ⟨run_of_error logFilter hlisted herror, run_of_error logFilter hpreviewed herror,
      run_of_error logFilter hplain herror, by simp⟩

/-- The desk with the file that the three modes are tried on. -/
def crlfDesk : FileDesk :=
  FileDesk.fooDesk FileDesk.crlfDocument .crlf

theorem modes_agree_crlfDesk :
    Ready ["Foo.ts", "-l", "4"] crlfDesk.tree { file := "Foo.ts", line := 4 } {} crlfDesk.file ∧
      CommandLine.read ["--list", "Foo.ts", "-l", "4"] =
        .ok { file := "Foo.ts", line := 4, list := true } ∧
      CommandLine.read ["Foo.ts", "--dry-run", "-l", "4"] =
        .ok { file := "Foo.ts", line := 4, dryRun := true } ∧
      crlfDesk.tree.Reached crlfDesk.tree.workingDirectory ∧
      ∃ declaration ps, (Settings.plan {} none).properties? crlfDesk = .ok (some (declaration, ps)) ∧
        Agree crlfDesk.tree crlfDesk.file {} 4 declaration ps
          (run ["--list", "Foo.ts", "-l", "4"] none crlfDesk.tree)
          (run ["Foo.ts", "--dry-run", "-l", "4"] none crlfDesk.tree)
          (run ["Foo.ts", "-l", "4"] none crlfDesk.tree) := by
  have hready : Ready ["Foo.ts", "-l", "4"] crlfDesk.tree { file := "Foo.ts", line := 4 } {}
      crlfDesk.file := ⟨by rfl, by rfl, by rfl, by rfl⟩
  have hlisting : CommandLine.read ["--list", "Foo.ts", "-l", "4"] =
      .ok { file := "Foo.ts", line := 4, list := true } := by rfl
  have hpreview : CommandLine.read ["Foo.ts", "--dry-run", "-l", "4"] =
      .ok { file := "Foo.ts", line := 4, dryRun := true } := by rfl
  have hhome : crlfDesk.tree.Reached crlfDesk.tree.workingDirectory := .root
  have hfound := (Plan.finds_iff.1 (FileDesk.finds_crlfDocument crlfDesk.tree)).1
  obtain ⟨declaration, ps, hps, hagree⟩ | ⟨error, herror, -⟩ :=
    modes_agree hready ⟨rfl, rfl⟩ hlisting hpreview (.inr hhome) none
  · exact ⟨hready, hlisting, hpreview, hhome, declaration, ps, hps, hagree⟩
  · cases hfound.symm.trans herror

/-- A file with a link to it under the name of its sibling. -/
def selfLinkTree : Files.Tree :=
  crlfDesk.tree.put ["Foo.ts.accessor-gen.tmp"] (.link "Foo.ts")

/-- **A link to the file under the name of its sibling** takes the place of the file, although
success is reported. It leads to itself then, and the text is lost. -/
theorem run_selfLinkTree :
    let report := run ["Foo.ts", "-l", "4"] none selfLinkTree
    OpenFile.open? selfLinkTree "Foo.ts" ⟨3, 0⟩ =
        .ok crlfDesk.file ∧
      report.exitCode = 0 ∧
      report.output = "✅ Inserted accessors for 1 properties of Foo at line 4\n" ∧
      report.tree.lookup? ["Foo.ts"] = some (.link "Foo.ts") ∧
      report.tree.readText? "Foo.ts" = .error .tooManyLinks :=
  ⟨by rfl, by rfl, by rfl, by rfl, by rfl⟩

end Accessors.Program
