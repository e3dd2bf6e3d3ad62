import Accessors.Editor.OpenFile
import Accessors.Proofs.Plan.Conduct
import Accessors.Proofs.Text.LineBreak

/-!
# Files that keep their line ending

An edit of an open file changes nothing about the file but its text, and if it cannot be saved not
even that (`FileDesk.insert_cases`). So a file that was opened with line breaks of two characters
converts whatever is put in to these. An `Action` is an edit, a run of a plan, or a change of the
files around the editor by other hands. Each of them keeps every line feed behind a carriage return
(`FileDesk.Action.inCrlf`), and so does any number of them (`FileDesk.isPaired_history`).
-/

namespace Accessors

open Text

namespace OpenFile

theorem of_open? {tree : Files.Tree} {path : String} {cursor : Position} {file : OpenFile}
    (h : open? tree path cursor = .ok file) :
    tree.readText? path = .ok file.text ∧ file.path = path ∧ file.cursor = cursor ∧
      file.ending = .ofText file.text := by
  rw [open?] at h
  split at h
  · cases h
  · cases h
  · rename_i text target hread hresolve
    obtain rfl := Except.ok.inj h
    exact ⟨hread, rfl, rfl, rfl⟩

theorem resolve?_of_open? {tree : Files.Tree} {path : String} {cursor : Position}
    {file : OpenFile} (h : open? tree path cursor = .ok file) :
    tree.resolve? path = .ok file.target := by
  rw [open?] at h
  split at h
  · cases h
  · cases h
  · rename_i hresolve
    rw [hresolve, ← Except.ok.inj h]

/-- Whether a file is open with line breaks of two characters and has no others. -/
structure InCrlf (file : OpenFile) : Prop where
  ending : file.ending = .crlf
  paired : IsPaired file.text.toList

theorem inCrlf_of_open? {tree : Files.Tree} {path : String} {cursor : Position} {file : OpenFile}
    (h : open? tree path cursor = .ok file) (hbreak : '\n' ∈ file.text.toList)
    (hpaired : IsPaired file.text.toList) : file.InCrlf := by
  obtain ⟨-, -, -, hending⟩ := of_open? h
  exact ⟨by rw [hending, LineEnding.ofText, ofChars_of_isPaired hpaired hbreak], hpaired⟩

theorem InCrlf.updated {file : OpenFile} (h : file.InCrlf) (position : Position)
    (fragments : List String) :
    { file with text := file.updated position fragments }.InCrlf := by
  refine ⟨h.ending, ?_⟩
  have hparts := cut_not_parts file.text position
  have htext : IsPaired ((cut file.text position).1 ++ (cut file.text position).2).toList := by
    rw [cut_append]
    exact h.paired
  have hmiddle := isPaired_join_convert fragments
  rw [String.toList_append] at htext
  rw [← h.ending] at hmiddle
  show IsPaired (insertAt file.text position (fragments.map file.ending.convert)).toList
  rw [insertAt, String.toList_append, String.toList_append]
  exact htext.insert hparts hmiddle

end OpenFile

namespace FileDesk

theorem insert_cases (desk : FileDesk) (position : Position) (fragments : List String) :
    ((desk.insert position fragments).result = .ok () ∧
        (desk.insert position fragments).editor.file =
          { desk.file with text := desk.file.updated position fragments }) ∨
      ∃ fault, (desk.insert position fragments).result = .error (.file fault) ∧
        (desk.insert position fragments).editor.file = desk.file := by
  rw [insert]
  split
  · exact .inr ⟨_, rfl, rfl⟩
  · exact .inl ⟨rfl, rfl⟩

/-! ## Histories -/

/-- What can happen to an open file and the files around it. -/
inductive Action
  | insert (edit : Edit)
  | run (plan : Plan)
  /-- The files become others by other hands. -/
  | outside (tree : Files.Tree)

/-- What there is after an action, whether it succeeded or not. -/
def Action.perform : Action → FileDesk → FileDesk
  | insert edit, desk => (edit.perform desk).editor
  | run plan, desk => (plan.run desk).editor
  | outside tree, desk => { desk with tree }

/-- Actions one after the other. -/
def history (actions : List Action) (desk : FileDesk) : FileDesk :=
  actions.foldl (fun desk action => action.perform desk) desk

theorem inCrlf_edit (edit : Edit) (desk : FileDesk) (h : desk.file.InCrlf) :
    (edit.perform desk).editor.file.InCrlf := by
  show (desk.insert edit.position edit.fragments).editor.file.InCrlf
  obtain ⟨-, hfile⟩ | ⟨error, -, hfile⟩ := desk.insert_cases edit.position edit.fragments
  · rw [hfile]
    exact h.updated edit.position edit.fragments
  · rwa [hfile]

theorem Action.inCrlf (action : Action) {desk : FileDesk} (h : desk.file.InCrlf) :
    (action.perform desk).file.InCrlf := by
  cases action with
  | insert edit => exact inCrlf_edit edit desk h
  | run plan => exact plan.run_keeps (P := fun desk : FileDesk => desk.file.InCrlf) inCrlf_edit h
  | outside tree => exact h

theorem inCrlf_history (actions : List Action) {desk : FileDesk} (h : desk.file.InCrlf) :
    (history actions desk).file.InCrlf := by
  induction actions generalizing desk with
  | nil => exact h
  | cons action actions ih => exact ih (action.inCrlf h)

/-- **A document with line breaks of two characters keeps them**: after any edits, at any positions
and of any fragments, and any runs, every line feed stands behind a carriage return. -/
theorem isPaired_history {desk : FileDesk} {path : String} {cursor : Position}
    (hopen : OpenFile.open? desk.tree path cursor = .ok desk.file)
    (hbreak : '\n' ∈ desk.file.text.toList) (hpaired : IsPaired desk.file.text.toList)
    (actions : List Action) : IsPaired (history actions desk).file.text.toList :=
  (inCrlf_history actions (OpenFile.inCrlf_of_open? hopen hbreak hpaired)).paired

/-- A desk with one file, `Foo.ts`, and the cursor on its line 3. -/
def fooDesk (text : String) (ending : LineEnding) : FileDesk where
  file := { path := "Foo.ts", target := ["Foo.ts"], text, ending, cursor := ⟨3, 0⟩ }
  tree := Files.Tree.put {} ["Foo.ts"] (.file text.toUTF8 0o644)

/-- A document with line breaks of two characters alone. -/
def crlfDocument : String :=
  "interface IFooData \x7b\r\n  id: number;\r\n\x7d\r\n"

theorem finds_crlfDocument (tree : Files.Tree) :
    Plan.Finds {} (FileDesk.mk (fooDesk crlfDocument .crlf).file tree) "Foo" [⟨"id", "number"⟩]
      ⟨3, 0⟩ :=
  ⟨linesOf crlfDocument, "Foo.ts", rfl, rfl, by rfl, rfl,
    Query.extract_eq_ok_iff.2 ⟨by decide, by decide⟩⟩

theorem isPaired_history_crlfDocument :
    let desk := fooDesk crlfDocument .crlf
    let actions : List Action :=
      [.insert ⟨⟨1, 99⟩, [" // a\nb\r", "\r\n", "c\r"]⟩, .run {}, .outside {}, .run {}]
    OpenFile.open? desk.tree "Foo.ts" ⟨3, 0⟩ = .ok desk.file ∧ '\n' ∈ desk.file.text.toList ∧
      IsPaired desk.file.text.toList ∧ IsPaired (history actions desk).file.text.toList := by
  intro desk actions
  have hopen : OpenFile.open? desk.tree "Foo.ts" ⟨3, 0⟩ = .ok desk.file := by rfl
  have hbreak : '\n' ∈ crlfDocument.toList := by decide
  have hspread : crlfDocument.toList =
      LineEnding.crlf.spread "interface IFooData \x7b\n  id: number;\n\x7d\n".toList := by decide
  have hpaired : IsPaired crlfDocument.toList := by
    rw [hspread]
    exact isPaired_spread_crlf _
  exact ⟨hopen, hbreak, hpaired, isPaired_history hopen hbreak hpaired actions⟩

end FileDesk

end Accessors
