import Accessors.Proofs.Editor.OpenFile
import Accessors.Proofs.Plan.Script
import Mathlib.Algebra.Ring.Nat

/-!
# An account of what is put in

A `Ledger` is an editor with the edits that it has made written down; what happens to it happens to
the editor (`Ledger.editor_history`). An edit puts pieces into a text and takes nothing away, so a
text that has `Grown` by the edits of a ledger still has the text it began with, and is longer by
the bytes of all pieces. A buffer counts its edits besides (`Buffer.accounts_history`); to a file
the pieces are converted first (`FileDesk.accounts_history`).
-/

namespace Accessors

open Text

/-! ## Ledgers -/

/-- An editor and the edits that it has made, in order. -/
structure Ledger (σ : Type) where
  editor : σ
  made : List Edit := []

namespace Ledger

variable {σ ω : Type} [Editor σ]

instance : Editor (Ledger σ) where
  lines? ledger := Editor.lines? ledger.editor
  fileName? ledger := Editor.fileName? ledger.editor
  cursor? ledger := Editor.cursor? ledger.editor
  insert ledger position fragments :=
    let response := Editor.insert ledger.editor position fragments
    let made := match response.result with
      | .ok () => [⟨position, fragments⟩]
      | .error _ => []
    { response with editor := ⟨response.editor, ledger.made ++ made⟩ }

theorem perform_of_ok {edit : Edit} {ledger : Ledger σ}
    (h : (edit.perform ledger.editor).result = .ok ()) :
    (edit.perform ledger).editor =
      ⟨(edit.perform ledger.editor).editor, ledger.made ++ [edit]⟩ := by
  have hresult : (Editor.insert ledger.editor edit.position edit.fragments).result = .ok () := h
  simp only [Edit.perform, Editor.insert, hresult]

theorem perform_of_error {edit : Edit} {ledger : Ledger σ} {error : Error}
    (h : (edit.perform ledger.editor).result = .error error) :
    (edit.perform ledger).editor = ⟨(edit.perform ledger.editor).editor, ledger.made⟩ := by
  have hresult : (Editor.insert ledger.editor edit.position edit.fragments).result =
      .error error := h
  simp only [Edit.perform, Editor.insert, hresult, List.append_nil]

/-- What happens to the editor from aside happens to it in the ledger. -/
def aside (change : ω → σ → σ) (other : ω) (ledger : Ledger σ) : Ledger σ :=
  { ledger with editor := change other ledger.editor }

theorem editor_script (script : Script) (ledger : Ledger σ) :
    (script.run ledger).editor.editor = (script.run ledger.editor).editor := by
  induction script generalizing ledger with
  | done => rfl
  | report _ _ ih => exact ih ledger
  | askLines _ ih => exact ih _ ledger
  | askFileName _ ih => exact ih _ ledger
  | askCursor _ ih => exact ih _ ledger
  | make edit _ ih => exact ih _ (edit.perform ledger).editor

theorem editor_turn (change : ω → σ → σ) (turn : Turn ω) (ledger : Ledger σ) :
    (turn.perform (aside change) ledger).editor = turn.perform change ledger.editor := by
  cases turn with
  | edit edit => rfl
  | aside other => rfl
  | run plan =>
    show (plan.run ledger).editor.editor = (plan.run ledger.editor).editor
    have h := editor_script (.ofPlan plan) ledger
    rwa [Script.run_ofPlan, Script.run_ofPlan] at h
  | command scripts name =>
    show ((Registry.ofScripts scripts).run name ledger).editor.editor =
      ((Registry.ofScripts scripts).run name ledger.editor).editor
    rw [Registry.run_ofScripts, Registry.run_ofScripts]
    cases scripts[name]? with
    | none => rfl
    | some script => exact editor_script script ledger

/-- **Nothing changes for an editor when its edits are written down.** -/
theorem editor_history (change : ω → σ → σ) (turns : List (Turn ω)) (ledger : Ledger σ) :
    (Turn.history (aside change) turns ledger).editor =
      Turn.history change turns ledger.editor := by
  induction turns generalizing ledger with
  | nil => rfl
  | cons turn turns ih =>
    show (Turn.history (aside change) turns (turn.perform (aside change) ledger)).editor = _
    rw [ih, editor_turn]
    rfl

end Ledger

/-! ## Texts that grow -/

/-- The bytes of all the pieces of some edits, each converted first. -/
def Edit.bytes (convert : String → String) (edits : List Edit) : Nat :=
  ((edits.flatMap Edit.fragments).map fun piece => (convert piece).utf8ByteSize).sum

/-- Whether a text has all of the old text in it, in order, and besides as many bytes as the pieces
of some edits. -/
structure Grown (convert : String → String) (old text : String) (edits : List Edit) : Prop where
  sublist : old.toList.Sublist text.toList
  bytes : text.utf8ByteSize = old.utf8ByteSize + Edit.bytes convert edits

theorem utf8ByteSize_join (fragments : List String) :
    (String.join fragments).utf8ByteSize = (fragments.map String.utf8ByteSize).sum := by
  induction fragments with
  | nil => rfl
  | cons fragment fragments ih =>
    rw [String.join_cons, String.utf8ByteSize_append, ih, List.map_cons, List.sum_cons]

theorem utf8ByteSize_insertAt (text : String) (position : Position) (fragments : List String) :
    (insertAt text position fragments).utf8ByteSize =
      text.utf8ByteSize + (fragments.map String.utf8ByteSize).sum := by
  have htext := congrArg String.utf8ByteSize (cut_append text position)
  rw [String.utf8ByteSize_append] at htext
  simp only [insertAt, String.utf8ByteSize_append, utf8ByteSize_join]
  omega

theorem sublist_insertAt (text : String) (position : Position) (fragments : List String) :
    text.toList.Sublist (insertAt text position fragments).toList := by
  have htext := congrArg String.toList (cut_append text position)
  rw [String.toList_append] at htext
  rw [← htext, insertAt, String.toList_append, String.toList_append, List.append_assoc]
  exact (List.sublist_append_right _ _).append_left _

namespace Grown

variable {convert : String → String} {old text : String} {edits : List Edit}

theorem refl (convert : String → String) (text : String) : Grown convert text text [] where
  sublist := List.Sublist.refl _
  bytes := rfl

theorem insertAt (h : Grown convert old text edits) (edit : Edit) :
    Grown convert old (Text.insertAt text edit.position (edit.fragments.map convert))
      (edits ++ [edit]) where
  sublist := h.sublist.trans (sublist_insertAt _ _ _)
  bytes := by
    have hbytes : Edit.bytes convert (edits ++ [edit]) =
        Edit.bytes convert edits +
          ((edit.fragments.map convert).map String.utf8ByteSize).sum := by
      simp [Edit.bytes, Function.comp_def]
    rw [utf8ByteSize_insertAt, h.bytes, hbytes, Nat.add_assoc]

end Grown

/-! ## Buffers -/

/-- Whether a ledger accounts for a buffer: its text has grown by the edits that were made, and they
are as many as the buffer counts; without a document there are none. -/
structure Buffer.Accounts (start : Buffer) (ledger : Ledger Buffer) : Prop where
  edits : ledger.editor.edits = start.edits + ledger.made.length
  text : ∀ old, start.text? = some old →
    ∃ text, ledger.editor.text? = some text ∧ Grown id old text ledger.made
  closed : start.text? = none → ledger.editor.text? = none ∧ ledger.made = []

theorem Buffer.accounts_edit {start : Buffer} (edit : Edit) (ledger : Ledger Buffer)
    (h : start.Accounts ledger) : start.Accounts (edit.perform ledger).editor := by
  obtain ⟨⟨document, edits⟩, made⟩ := ledger
  cases document with
  | none =>
    have hresult : (edit.perform (Buffer.mk none edits)).result =
        .error (.editor "no document is open") := rfl
    rw [Ledger.perform_of_error hresult]
    exact h
  | some document =>
    have hresult : (edit.perform (Buffer.mk (some document) edits)).result = .ok () := rfl
    rw [Ledger.perform_of_ok hresult]
    refine ⟨?_, ?_, ?_⟩
    · have hedits : edits = start.edits + made.length := h.edits
      show edits + 1 = start.edits + (made ++ [edit]).length
      rw [List.length_append, List.length_singleton, hedits, Nat.add_assoc]
    · intro old hold
      obtain ⟨text, htext, hgrown⟩ := h.text old hold
      obtain rfl : document.text = text := Option.some.inj htext
      have hgrown' := hgrown.insertAt edit
      rw [List.map_id] at hgrown'
      exact ⟨Text.insertAt document.text edit.position edit.fragments, rfl, hgrown'⟩
    · intro hnone
      cases (h.closed hnone).1

theorem Buffer.accounts_history (start : Buffer) (turns : List (Turn Position)) :
    start.Accounts (Turn.history (Ledger.aside fun cursor buffer => buffer.moveTo cursor) turns
      ⟨start, []⟩) := by
  refine Turn.history_keeps accounts_edit ?_ turns ?_
  · intro cursor ledger h
    obtain ⟨⟨document, edits⟩, made⟩ := ledger
    cases document with
    | none => exact h
    | some document => exact ⟨h.edits, h.text, h.closed⟩
  · exact ⟨rfl, fun old hold => ⟨old, hold, .refl id old⟩, fun hnone => ⟨hnone, rfl⟩⟩

/-! ## Open files -/

/-- Whether a ledger accounts for an open file: its text has grown by the edits that were made, once
their pieces are converted to the line ending of the document. -/
structure FileDesk.Accounts (start : FileDesk) (ledger : Ledger FileDesk) : Prop where
  ending : ledger.editor.file.ending = start.file.ending
  text : Grown start.file.ending.convert start.file.text ledger.editor.file.text ledger.made

theorem FileDesk.accounts_edit {start : FileDesk} (edit : Edit) (ledger : Ledger FileDesk)
    (h : start.Accounts ledger) : start.Accounts (edit.perform ledger).editor := by
  obtain ⟨hresult, hfile⟩ | ⟨error, hresult, hfile⟩ :=
    ledger.editor.insert_cases edit.position edit.fragments
  · rw [Ledger.perform_of_ok hresult]
    have hending : (edit.perform ledger.editor).editor.file.ending = ledger.editor.file.ending := by
      show (ledger.editor.insert edit.position edit.fragments).editor.file.ending = _
      rw [hfile]
    have htext : (edit.perform ledger.editor).editor.file.text =
        ledger.editor.file.updated edit.position edit.fragments := by
      show (ledger.editor.insert edit.position edit.fragments).editor.file.text = _
      rw [hfile]
    refine ⟨hending.trans h.ending, ?_⟩
    show Grown start.file.ending.convert start.file.text
      (edit.perform ledger.editor).editor.file.text (ledger.made ++ [edit])
    rw [htext, OpenFile.updated, h.ending]
    exact h.text.insertAt edit
  · rw [Ledger.perform_of_error hresult]
    have hfile : (edit.perform ledger.editor).editor.file = ledger.editor.file := hfile
    refine ⟨(congrArg OpenFile.ending hfile).trans h.ending, ?_⟩
    show Grown start.file.ending.convert start.file.text
      (edit.perform ledger.editor).editor.file.text ledger.made
    rw [hfile]
    exact h.text

theorem FileDesk.accounts_history (start : FileDesk) (turns : List (Turn Files.Tree)) :
    start.Accounts (Turn.history
      (Ledger.aside fun tree desk => { desk with tree }) turns ⟨start, []⟩) := by
  refine Turn.history_keeps accounts_edit ?_ turns ?_
  · intro tree ledger h
    exact ⟨h.ending, h.text⟩
  · exact ⟨rfl, .refl _ _⟩

theorem FileDesk.notices_insert (desk : FileDesk) (position : Position) (fragments : List String) :
    (desk.file.updated position fragments).utf8ByteSize =
        desk.file.text.utf8ByteSize + Edit.bytes desk.file.ending.convert [⟨position, fragments⟩] ∧
      ((desk.insert position fragments).result = .ok () →
        ∃ path, (desk.insert position fragments).notices =
          [.wrote (Edit.bytes desk.file.ending.convert [⟨position, fragments⟩]) path]) := by
  have hbytes := (Grown.refl desk.file.ending.convert desk.file.text).insertAt
    ⟨position, fragments⟩
  have hsize : (desk.file.updated position fragments).utf8ByteSize =
      desk.file.text.utf8ByteSize +
        Edit.bytes desk.file.ending.convert [⟨position, fragments⟩] := hbytes.bytes
  refine ⟨hsize, ?_⟩
  rw [insert]
  split
  · intro h
    cases h
  · rename_i tree _
    intro _
    refine ⟨tree.display desk.file.target, ?_⟩
    show [Log.Notice.wrote _ _] = _
    rw [hsize, Nat.add_sub_cancel_left]

/-- **No text of the user is ever lost**, whatever happens to an editor, in any order, whether it
succeeds or not. In a buffer with a document, the text it began with is still there, in order; it is
longer by exactly the bytes of the pieces of the edits that were made, and these are counted. A
buffer without a document takes no edit. In an open file the same goes for the pieces once they are
converted to its line ending, and what the next edit reports is by how much the text grows. -/
theorem turns_lose_nothing :
    (∀ (start : Buffer) (turns : List (Turn Position)),
      let move := fun cursor (buffer : Buffer) => buffer.moveTo cursor
      let ledger := Turn.history (Ledger.aside move) turns (Ledger.mk start [])
      ledger.editor = Turn.history move turns start ∧ start.Accounts ledger) ∧
    ∀ (start : FileDesk) (turns : List (Turn Files.Tree)),
      let replace := fun tree (desk : FileDesk) => { desk with tree }
      let ledger := Turn.history (Ledger.aside replace) turns (Ledger.mk start [])
      ledger.editor = Turn.history replace turns start ∧ start.Accounts ledger ∧
        ∀ position fragments,
          (ledger.editor.file.updated position fragments).utf8ByteSize =
              ledger.editor.file.text.utf8ByteSize +
                Edit.bytes start.file.ending.convert [⟨position, fragments⟩] ∧
            ((ledger.editor.insert position fragments).result = .ok () →
              ∃ path, (ledger.editor.insert position fragments).notices =
                [.wrote (Edit.bytes start.file.ending.convert [⟨position, fragments⟩]) path]) := by
  refine ⟨fun start turns => ?_, fun start turns => ?_⟩
  · exact ⟨Ledger.editor_history _ turns ⟨start, []⟩, Buffer.accounts_history start turns⟩
  · have haccounts := FileDesk.accounts_history start turns
    refine ⟨Ledger.editor_history _ turns ⟨start, []⟩, haccounts, ?_⟩
    intro position fragments
    rw [← haccounts.ending]
    exact FileDesk.notices_insert _ position fragments

end Accessors
