import Accessors.Editor.Buffer
import Accessors.Proofs.Editor.OpenFile
import Accessors.Proofs.Layout.LineBreak
import Accessors.Proofs.Plan.Simulation

/-!
# Editors that agree

A document in memory and a file with the same text are edited in step, except that the file keeps
its own line ending: the two texts agree when their line breaks are written as line feeds, and that
decides what a run finds and where it puts the block (`simulation_buffer`). The runs come to the
same, and the lines stay the same (`runs_buffer_eq`).

Two files that differ in their line ending only are edited in step as well, and one text is the
other with its line feeds replaced (`simulation_crlf`, `runs_crlf_eq`).

Both times the edit is a block at the start of a line. The block has no line break of two characters
before it is converted, and none comes about where it meets the text (`Layout.unify_between`).
-/

namespace Accessors

open Text Plan FileDesk

/-! ## Edits of a plan -/

theorem Plan.Finds.isOneLine {σ : Type} [Editor σ] {plan : Plan} {editor : σ}
    {declaration : String} {ps : List Property} {cursor : Position}
    (hfinds : plan.Finds editor declaration ps cursor) {text : String}
    (hlines : Editor.lines? editor = some (linesOf text)) : ∀ p ∈ ps, p.IsOneLine := by
  obtain ⟨lines, fileName, hlines', -, -, -, hps⟩ := hfinds
  obtain rfl := Option.some.inj (hlines.symm.trans hlines')
  obtain ⟨-, rfl⟩ := Query.extract_eq_ok_iff.1 hps
  exact fun p hp => Query.isOneLine_of_mem_properties hp

/-- The text of a file with the block put in at the start of a line, in the line ending of the file. -/
theorem OpenFile.updated_block {file : OpenFile} (layout : Layout) {ps : List Property}
    (hps : ∀ p ∈ ps, p.IsOneLine) {line : UInt32} {above below : String}
    (htext : above ++ below = file.text)
    (hcut : LineCut line.toNat above.toList below.toList) :
    file.updated (.startOf line) (layout.fragments ps) =
      above ++ String.ofList (file.ending.spread (layout.block ps).toList) ++ below := by
  rw [OpenFile.updated, ← htext, insertAt_startOf hcut, ← Layout.toList_block_convert hps,
    String.ofList_toList]

theorem FileDesk.file_edit {desk : FileDesk} {plan : Plan} {ps : List Property} {cursor : Position}
    (hps : ∀ p ∈ ps, p.IsOneLine) (hresult : ((plan.edit ps cursor).perform desk).result = .ok ())
    {above below : String} (htext : above ++ below = desk.file.text)
    (hcut : LineCut cursor.line.toNat above.toList below.toList) :
    ((plan.edit ps cursor).perform desk).editor.file =
      { desk.file with
        text := above ++ String.ofList (desk.file.ending.spread (plan.layout.block ps).toList) ++
          below } := by
  obtain ⟨-, hfile⟩ | ⟨error, herror, -⟩ :=
    desk.insert_cases (.startOf cursor.line) (plan.layout.fragments ps)
  · rw [← OpenFile.updated_block plan.layout hps htext hcut]
    exact hfile
  · exact absurd (hresult.symm.trans herror) (by simp)

/-! ## A document in memory and a file -/

/-- Whether a buffer and a file with a line ending have the same name, cursor and text up to line
endings, and the same text if the line ending is a line feed. -/
def InStep (ending : LineEnding) (buffer : Buffer) (desk : FileDesk) : Prop :=
  ∃ text edits, buffer = ⟨some ⟨desk.file.path, text, desk.file.cursor⟩, edits⟩ ∧
    LineEnding.unify text.toList = LineEnding.unify desk.file.text.toList ∧
    desk.file.ending = ending ∧ (ending = .lf → text = desk.file.text)

theorem InStep.edit {ending : LineEnding} {buffer : Buffer} {desk : FileDesk}
    (h : InStep ending buffer desk) {plan : Plan} {ps : List Property} {cursor : Position}
    (hne : ps ≠ []) (hps : ∀ p ∈ ps, p.IsOneLine)
    (hresult : ((plan.edit ps cursor).perform desk).result = .ok ()) :
    InStep ending ((plan.edit ps cursor).perform buffer).editor
      ((plan.edit ps cursor).perform desk).editor := by
  obtain ⟨text, edits, rfl, hunify, hending, hsame⟩ := h
  obtain ⟨above, below, rfl, hcut⟩ := exists_lineCut cursor.line.toNat text
  obtain ⟨above', below', htext', hcut'⟩ := exists_lineCut cursor.line.toNat desk.file.text
  have hbuffer : insertAt (above ++ below) (.startOf cursor.line) (plan.layout.fragments ps) =
      above ++ plan.layout.block ps ++ below := insertAt_startOf hcut _
  have hfile := FileDesk.file_edit hps hresult htext' hcut'
  refine ⟨above ++ plan.layout.block ps ++ below, edits + 1, ?_, ?_, ?_, ?_⟩
  · rw [hfile, ← hbuffer]
    rfl
  · -- both texts fall apart at the same place, and the block is the same up to its line endings
    have hparts : LineEnding.unify (above.toList ++ below.toList) =
        LineEnding.unify (above'.toList ++ below'.toList) := by
      rw [← String.toList_append, hunify, ← htext', String.toList_append]
    obtain ⟨habove, hbelow⟩ := hcut.unify_congr hcut' hparts
    simp only [hfile, String.toList_append, String.toList_ofList]
    rw [plan.layout.unify_between_lf hne hps, habove, hbelow, plan.layout.unify_between hne hps]
  · rw [hfile]
    exact hending
  · -- the same text is cut into the same parts
    intro hlf
    rw [FileDesk.file_edit hps hresult (hsame hlf) hcut, hending, hlf, LineEnding.spread_lf,
      String.ofList_toList]

/-- **A document in memory and a file stay in step.** -/
theorem simulation_buffer (ending : LineEnding) : Simulation (InStep ending) where
  answers := by
    rintro _ desk ⟨text, edits, rfl, hunify, -, -⟩
    refine ⟨?_, rfl, rfl⟩
    show some (linesOf text) = some (linesOf desk.file.text)
    rw [linesOf_eq_of_unify_eq hunify]
  edit := by
    intro buffer desk plan declaration ps cursor h hfinds hne _ hresult
    refine h.edit hne ?_ hresult
    obtain ⟨text, edits, rfl, -, -, -⟩ := h
    exact hfinds.isOneLine rfl

theorem Buffer.takesAll (plans : List Plan) (document : Document) :
    TakesAll plans (Buffer.ofDocument document) := by
  have hopen : (ofDocument document).document ≠ none := by simp [ofDocument]
  refine takesAll_of_edit (P := fun buffer => buffer.document ≠ none) ?_ plans hopen
  rintro edit ⟨_ | document, edits⟩ hopen
  · exact absurd rfl hopen
  · exact ⟨rfl, by simp [Edit.perform, Editor.insert, Buffer.insert]⟩

theorem FileDesk.takesAll {plans : List Plan} {desk : FileDesk}
    (h : ∀ result ∈ (Plan.runs plans desk).1, ∀ fault, result ≠ .error (.file fault)) :
    TakesAll plans desk := by
  refine takesAll_of_results (fun error => ∃ fault, error = .file fault) ?_ plans ?_
  · intro edit editor error herror
    obtain ⟨hresult, -⟩ | ⟨fault, hresult, -⟩ :=
      editor.insert_cases edit.position edit.fragments
    · cases herror.symm.trans hresult
    · exact ⟨fault, Except.error.inj (herror.symm.trans hresult)⟩
  · rintro result hresult _ ⟨fault, rfl⟩
    exact h result hresult fault

/-- **A document in memory and a file that starts with its text are edited alike**: as long as every
save succeeds, each run comes to the same, and the lines are the same after it. If the line ending
of the text is a line feed, the texts are the same. -/
theorem runs_buffer_eq {desk : FileDesk} {path text : String} {cursor : Position}
    (hopen : OpenFile.open? desk.tree path cursor = .ok desk.file)
    (htext : desk.tree.readText? path = .ok text) {plans : List Plan}
    (hsaved : ∀ result ∈ (Plan.runs plans desk).1, ∀ fault, result ≠ .error (.file fault)) :
    ∀ done, done <+: plans →
      let inMemory := Plan.runs done (Buffer.ofDocument ⟨path, text, cursor⟩)
      let onDisk := Plan.runs done desk
      inMemory.1 = onDisk.1 ∧
        inMemory.2.text?.map linesOf = some (linesOf onDisk.2.file.text) ∧
        (LineEnding.ofText text = .lf → inMemory.2.text? = some onDisk.2.file.text) := by
  intro done hdone inMemory onDisk
  obtain ⟨hread, rfl, rfl, hending⟩ := OpenFile.of_open? hopen
  obtain rfl := Except.ok.inj (htext.symm.trans hread)
  have hstart : InStep desk.file.ending
      (Buffer.ofDocument ⟨desk.file.path, desk.file.text, desk.file.cursor⟩) desk :=
    ⟨desk.file.text, 0, rfl, rfl, rfl, fun _ => rfl⟩
  obtain ⟨hresults, text, edits, hbuffer, hunify, -, hsame⟩ :=
    (simulation_buffer desk.file.ending).runs done hstart (Buffer.takesAll done _)
      (FileDesk.takesAll fun result hresult => hsaved result (mem_runs_of_isPrefix hdone hresult))
  have htext' : inMemory.2.text? = some text := by
    rw [show inMemory.2 = _ from hbuffer]
    rfl
  refine ⟨hresults, ?_, ?_⟩
  · rw [htext', Option.map_some, linesOf_eq_of_unify_eq hunify]
  · intro hlf
    rw [htext', hsame (hending.trans hlf)]

/-- A document with both line endings, the first of which is the longer one. -/
def crlfFirst : String :=
  "interface IFooData \x7b\r\n  id: number;\n\x7d\n"

theorem runs_buffer_eq_crlfFirst :
    let buffer := Buffer.ofDocument ⟨"Foo.ts", crlfFirst, ⟨3, 0⟩⟩
    let desk := fooDesk crlfFirst .crlf
    OpenFile.open? desk.tree "Foo.ts" ⟨3, 0⟩ = .ok desk.file ∧
      desk.tree.readText? "Foo.ts" = .ok crlfFirst ∧
      (Plan.runs [{}] desk).1 = [.ok (.inserted "Foo" 1 ⟨3, 0⟩)] ∧
      (Plan.runs [{}] buffer).1 = (Plan.runs [{}] desk).1 ∧
      (Plan.runs [{}] buffer).2.text?.map linesOf =
        some (linesOf (Plan.runs [{}] desk).2.file.text) := by
  have hopen : OpenFile.open? (fooDesk crlfFirst .crlf).tree "Foo.ts" ⟨3, 0⟩ =
      .ok (fooDesk crlfFirst .crlf).file := by rfl
  have hread : (fooDesk crlfFirst .crlf).tree.readText? "Foo.ts" = .ok crlfFirst := by rfl
  have hresults : (Plan.runs [{}] (fooDesk crlfFirst .crlf)).1 =
      [.ok (.inserted "Foo" 1 ⟨3, 0⟩)] := by rfl
  obtain ⟨hsame, hlines, -⟩ :=
    runs_buffer_eq hopen hread (by simp [hresults]) [{}] List.prefix_rfl
  exact ⟨hopen, hread, hresults, hsame, hlines⟩

/-! ## Two files -/

/-- A text with its line feeds replaced by line breaks of two characters. -/
def crlfOf (text : String) : String :=
  String.ofList (LineEnding.crlf.spread text.toList)

theorem crlfOf_append (text text' : String) :
    crlfOf (text ++ text') = crlfOf text ++ crlfOf text' := by
  rw [crlfOf, String.toList_append, LineEnding.spread_append, String.ofList_append, crlfOf, crlfOf]

/-- Whether two files have the same name and cursor, and texts and line endings that differ in the
carriage returns of the first one only. -/
structure Spread (desk desk' : FileDesk) : Prop where
  path : desk.file.path = desk'.file.path
  cursor : desk.file.cursor = desk'.file.cursor
  text : desk.file.text = crlfOf desk'.file.text
  ending : desk.file.ending = .crlf
  ending' : desk'.file.ending = .lf
  unified : IsUnified desk'.file.text.toList

theorem Spread.edit {desk desk' : FileDesk} (h : Spread desk desk') {plan : Plan}
    {ps : List Property} {cursor : Position} (hne : ps ≠ []) (hps : ∀ p ∈ ps, p.IsOneLine)
    (hresult : ((plan.edit ps cursor).perform desk).result = .ok ())
    (hresult' : ((plan.edit ps cursor).perform desk').result = .ok ()) :
    Spread ((plan.edit ps cursor).perform desk).editor
      ((plan.edit ps cursor).perform desk').editor := by
  obtain ⟨above, below, htext, hcut⟩ := exists_lineCut cursor.line.toNat desk'.file.text
  have hspread : LineCut cursor.line.toNat (crlfOf above).toList (crlfOf below).toList := by
    rw [crlfOf, crlfOf, String.toList_ofList, String.toList_ofList]
    exact hcut.spread_crlf
  have hjoin : crlfOf above ++ crlfOf below = desk.file.text := by
    rw [← crlfOf_append, htext, h.text]
  have hfile := FileDesk.file_edit hps hresult hjoin hspread
  have hfile' := FileDesk.file_edit hps hresult' htext hcut
  rw [h.ending] at hfile
  rw [h.ending', LineEnding.spread_lf, String.ofList_toList] at hfile'
  refine ⟨?_, ?_, ?_, ?_, ?_, ?_⟩
  · rw [hfile, hfile']
    exact h.path
  · rw [hfile, hfile']
    exact h.cursor
  · simp only [hfile, hfile', crlfOf_append]
    rfl
  · rw [hfile, ← h.ending]
  · rw [hfile', ← h.ending']
  · have hunified := h.unified
    rw [← htext, String.toList_append] at hunified
    obtain ⟨habove, hbelow⟩ := hcut.isUnified hunified
    simp only [hfile', IsUnified, String.toList_append]
    rw [plan.layout.unify_between_lf hne hps, habove, hbelow]

/-- **Two files that differ in their line ending stay so.** -/
theorem simulation_crlf : Simulation Spread where
  answers := by
    intro desk desk' h
    have hunify : LineEnding.unify desk.file.text.toList =
        LineEnding.unify desk'.file.text.toList := by
      rw [h.text, crlfOf, String.toList_ofList, LineEnding.unify_spread_crlf, h.unified]
    refine ⟨?_, congrArg some h.path, congrArg some h.cursor⟩
    show some (linesOf desk.file.text) = some (linesOf desk'.file.text)
    rw [linesOf_eq_of_unify_eq hunify]
  edit := fun h hfinds hne hresult hresult' =>
    h.edit hne (hfinds.isOneLine rfl) hresult hresult'

/-- **A file with line breaks of two characters is edited like one with line feeds**: as long as
every save succeeds in both, each run comes to the same, and after it the one text is the other with
its line feeds replaced. -/
theorem runs_crlf_eq {desk desk' : FileDesk} {path text : String} {cursor : Position}
    (hopen : OpenFile.open? desk.tree path cursor = .ok desk.file)
    (hopen' : OpenFile.open? desk'.tree path cursor = .ok desk'.file)
    (htext : desk.tree.readText? path = .ok (crlfOf text))
    (htext' : desk'.tree.readText? path = .ok text)
    (hreturn : '\r' ∉ text.toList) (hbreak : '\n' ∈ text.toList) {plans : List Plan}
    (hsaved : ∀ result ∈ (Plan.runs plans desk).1, ∀ fault, result ≠ .error (.file fault))
    (hsaved' : ∀ result ∈ (Plan.runs plans desk').1, ∀ fault, result ≠ .error (.file fault)) :
    ∀ done, done <+: plans →
      (Plan.runs done desk).1 = (Plan.runs done desk').1 ∧
        (Plan.runs done desk).2.file.text = crlfOf (Plan.runs done desk').2.file.text := by
  intro done hdone
  obtain ⟨hread, hpath, hcursor, hending⟩ := OpenFile.of_open? hopen
  obtain ⟨hread', hpath', hcursor', hending'⟩ := OpenFile.of_open? hopen'
  have hfile : desk.file.text = crlfOf text := Except.ok.inj (hread.symm.trans htext)
  have hfile' : desk'.file.text = text := Except.ok.inj (hread'.symm.trans htext')
  have hunified : IsUnified text.toList := isUnified_of_notMem_return hreturn
  have hcrlf : LineEnding.ofText (crlfOf text) = .crlf := by
    rw [LineEnding.ofText, crlfOf, String.toList_ofList]
    refine ofChars_of_isPaired (isPaired_spread_crlf _) ?_
    rw [← List.count_pos_iff, LineEnding.count_spread]
    exact List.count_pos_iff.2 hbreak
  have hstart : Spread desk desk' := by
    refine ⟨hpath.trans hpath'.symm, hcursor.trans hcursor'.symm, ?_, ?_, ?_, ?_⟩
    · rw [hfile, hfile']
    · rw [hending, hfile, hcrlf]
    · rw [hending', hfile', LineEnding.ofText, ofChars_of_isUnified hunified]
    · rwa [hfile']
  obtain ⟨hresults, hlast⟩ := simulation_crlf.runs done hstart
    (FileDesk.takesAll fun result hresult => hsaved result (mem_runs_of_isPrefix hdone hresult))
    (FileDesk.takesAll fun result hresult => hsaved' result (mem_runs_of_isPrefix hdone hresult))
  exact ⟨hresults, hlast.text⟩

def lfText : String :=
  "interface IFooData \x7b\n  id: number;\n\x7d\n"

theorem runs_crlf_eq_lfText :
    let desk := fooDesk (crlfOf lfText) .crlf
    let desk' := fooDesk lfText .lf
    OpenFile.open? desk.tree "Foo.ts" ⟨3, 0⟩ = .ok desk.file ∧
      OpenFile.open? desk'.tree "Foo.ts" ⟨3, 0⟩ = .ok desk'.file ∧
      (Plan.runs [{}] desk').1 = [.ok (.inserted "Foo" 1 ⟨3, 0⟩)] ∧
      (Plan.runs [{}] desk).1 = (Plan.runs [{}] desk').1 ∧
      (Plan.runs [{}] desk).2.file.text = crlfOf (Plan.runs [{}] desk').2.file.text := by
  have hopen : OpenFile.open? (fooDesk (crlfOf lfText) .crlf).tree "Foo.ts" ⟨3, 0⟩ =
      .ok (fooDesk (crlfOf lfText) .crlf).file := by rfl
  have hopen' : OpenFile.open? (fooDesk lfText .lf).tree "Foo.ts" ⟨3, 0⟩ =
      .ok (fooDesk lfText .lf).file := by rfl
  have hresults : (Plan.runs [{}] (fooDesk (crlfOf lfText) .crlf)).1 =
      [.ok (.inserted "Foo" 1 ⟨3, 0⟩)] := by rfl
  have hresults' : (Plan.runs [{}] (fooDesk lfText .lf)).1 =
      [.ok (.inserted "Foo" 1 ⟨3, 0⟩)] := by rfl
  obtain ⟨hsame, htext⟩ := runs_crlf_eq hopen hopen' rfl rfl (by decide) (by decide)
    (by simp [hresults]) (by simp [hresults']) [{}] List.prefix_rfl
  exact ⟨hopen, hopen', hresults', hsame, htext⟩

end Accessors
