import Accessors.Editor.Buffer
import Accessors.Plan
import Accessors.Proofs.Layout
import Accessors.Proofs.Result
import Accessors.Proofs.Text.LineCut

/-!
# What a run does to a document in memory

A run that finds properties is one edit at the start of the line with the cursor
(`run_of_properties?`). In a buffer that edit puts the block of accessors in at the start of the
line (`run_buffer`); seen line by line, the last line of the block is glued to the line that was
there, and all other lines stay what they were (`run_inserts_block`).

`runs` runs plans one after the other.
-/

namespace Accessors.Plan

open Text

/-! ## One run -/

section Editor

variable {σ : Type} [Editor σ]

/-- **A run that finds properties is one edit**, and it ends the way the edit does. -/
theorem run_of_properties? {plan : Plan} {editor : σ} {declaration : String} {ps : List Property}
    {cursor : Position} (hps : plan.properties? editor = .ok (some (declaration, ps)))
    (hcursor : Editor.cursor? editor = some cursor) (hne : ps ≠ []) :
    let edit := Editor.insert editor (.startOf cursor.line) (plan.layout.fragments ps)
    (plan.run editor).editor = edit.editor ∧
      (plan.run editor).result =
        edit.result.map fun _ => .inserted declaration ps.length (.startOf cursor.line) := by
  have hempty : ps.isEmpty = false := List.isEmpty_eq_false_iff.2 hne
  simp only [run, hps, runOn, hcursor, hempty, Bool.false_eq_true, if_false, insert]
  cases (Editor.insert editor (.startOf cursor.line) (plan.layout.fragments ps)).result <;>
    exact ⟨rfl, rfl⟩

/-- Runs plans one after the other: what each of them came to, and the editor after the last. -/
def runs : List Plan → σ → List (Except Error Outcome) × σ
  | [], editor => ([], editor)
  | plan :: plans, editor =>
    let response := plan.run editor
    let (results, last) := runs plans response.editor
    (response.result :: results, last)

end Editor

/-! ## Buffers -/

theorem subject?_buffer (plan : Plan) (document : Document) (edits : Nat) :
    plan.subject? (Buffer.mk (some document) edits) =
      (plan.declarationOf? document.fileName).map fun declaration =>
        (linesOf document.text, declaration) := by
  simp only [subject?, Editor.lines?, Editor.fileName?, Buffer.text?, Option.map_some,
    Option.bind_eq_bind, Option.bind_some]
  cases plan.declarationOf? document.fileName <;> rfl

theorem properties?_eq_ok_some_iff {σ : Type} [Editor σ] {plan : Plan} {editor : σ}
    {declaration : String} {ps : List Property} :
    plan.properties? editor = .ok (some (declaration, ps)) ↔
      ∃ lines, plan.subject? editor = some (lines, declaration) ∧
        plan.query.extract lines declaration = .ok ps := by
  rw [properties?]
  cases plan.subject? editor with
  | none => simp
  | some subject =>
    obtain ⟨lines, declaration'⟩ := subject
    simp only [map_eq_ok_iff, Option.some.injEq, Prod.mk.injEq]
    constructor
    · rintro ⟨ps', hps, rfl, rfl⟩
      exact ⟨lines, ⟨rfl, rfl⟩, hps⟩
    · rintro ⟨lines', ⟨rfl, rfl⟩, hps⟩
      exact ⟨ps, hps, rfl, rfl⟩

/-- The properties of a document in memory are those that its lines declare. -/
theorem properties?_buffer_eq_some_iff {plan : Plan} {document : Document} {edits : Nat}
    {declaration : String} {ps : List Property} :
    plan.properties? (Buffer.mk (some document) edits) = .ok (some (declaration, ps)) ↔
      plan.declarationOf? document.fileName = some declaration ∧
        plan.query.extract (linesOf document.text) declaration = .ok ps := by
  rw [properties?_eq_ok_some_iff, subject?_buffer]
  simp only [Option.map_eq_some_iff, Prod.mk.injEq]
  constructor
  · rintro ⟨_, ⟨_, hdeclaration, rfl, rfl⟩, hps⟩
    exact ⟨hdeclaration, hps⟩
  · rintro ⟨hdeclaration, hps⟩
    exact ⟨_, ⟨declaration, hdeclaration, rfl, rfl⟩, hps⟩

theorem run_buffer {plan : Plan} {document : Document} {edits : Nat} {declaration : String}
    {ps : List Property}
    (hps : plan.properties? (Buffer.mk (some document) edits) = .ok (some (declaration, ps)))
    (hne : ps ≠ []) {above below : String} (htext : above ++ below = document.text)
    (hcut : LineCut document.cursor.line.toNat above.toList below.toList) :
    (plan.run (Buffer.mk (some document) edits)).result =
        .ok (.inserted declaration ps.length ⟨document.cursor.line, 0⟩) ∧
      (plan.run (Buffer.mk (some document) edits)).editor =
        { document := some { document with text := above ++ plan.layout.block ps ++ below }
          edits := edits + 1 } := by
  have hcursor : Editor.cursor? (Buffer.mk (some document) edits) = some document.cursor := rfl
  obtain ⟨heditor, hresult⟩ := run_of_properties? hps hcursor hne
  have hinsert : insertAt document.text (.startOf document.cursor.line) (plan.layout.fragments ps) =
      above ++ plan.layout.block ps ++ below := by
    rw [← htext, insertAt_startOf hcut]
    rfl
  refine ⟨hresult, ?_⟩
  rw [heditor]
  simp only [Editor.insert, Buffer.insert, hinsert]

/-- **A run puts the block in at the start of the line with the cursor**: behind as many line feeds
as the line has in front of it, or at the end of the text if it has fewer. If the text has the line,
the lines above it stay; then come the lines of the block, with the line itself, empty if the text
ends there, glued to the last of them; and the lines below follow. -/
theorem run_inserts_block {plan : Plan} {buffer : Buffer} {document : Document}
    (hopen : buffer.document = some document) {declaration : String} {ps : List Property}
    (hps : plan.properties? buffer = .ok (some (declaration, ps))) (hne : ps ≠ []) :
    ∃ above below : String, above ++ below = document.text ∧
      LineCut document.cursor.line.toNat above.toList below.toList ∧
      (plan.run buffer).result =
        .ok (.inserted declaration ps.length ⟨document.cursor.line, 0⟩) ∧
      (plan.run buffer).editor =
        { document := some { document with text := above ++ plan.layout.block ps ++ below }
          edits := buffer.edits + 1 } ∧
      (document.cursor.line.toNat ≤ document.text.toList.count '\n' →
        ∃ front last, linesOf (plan.layout.block ps) = front ++ [last] ∧
          linesOf (above ++ plan.layout.block ps ++ below) =
            (linesOf document.text).take document.cursor.line.toNat ++ front ++
              (last ++ (linesOf document.text)[document.cursor.line.toNat]?.getD "") ::
                (linesOf document.text).drop (document.cursor.line.toNat + 1)) := by
  obtain ⟨opened, edits⟩ := buffer
  obtain rfl : opened = some document := hopen
  obtain ⟨above, below, htext, hcut⟩ := exists_lineCut document.cursor.line.toNat document.text
  obtain ⟨hresult, heditor⟩ := run_buffer hps hne htext hcut
  refine ⟨above, below, htext, hcut, hresult, heditor, fun hline => ?_⟩
  have hwithin : LineCut.Within document.cursor.line.toNat above.toList :=
    hcut.within (by rw [← String.toList_append, htext]; exact hline)
  obtain ⟨front, hfront⟩ := plan.layout.exists_linesOf_block hne
  refine ⟨front, plan.layout.lastLine, ?_, ?_⟩
  · simpa [linesOf_empty] using hfront ""
  · have htake := hwithin.take_linesOf below
    have hdrop := hwithin.drop_linesOf below
    rw [htext] at htake hdrop
    have hhead : (linesOf document.text)[document.cursor.line.toNat]?.getD "" =
        (linesOf below).headD "" := by
      rw [← hdrop, List.headD_eq_head?_getD, List.head?_drop]
    have htail : (linesOf document.text).drop (document.cursor.line.toNat + 1) =
        (linesOf below).tail := by
      rw [← hdrop, List.tail_drop]
    rw [String.append_assoc, linesOf_append hwithin.ended, hfront, htake, hhead, htail,
      List.append_assoc]

/-- A document with both line endings and a letter of two bytes. -/
def mixedDocument : Document :=
  ⟨"src/Foo.ts",
    "// é\ninterface IFooData \x7b\r\n  id: number;\n\x7d\r\nclass Foo \x7b\r\n\x7d", ⟨4, 2⟩⟩

theorem run_inserts_block_mixed :
    Plan.properties? {} (Buffer.ofDocument mixedDocument) =
        .ok (some ("Foo", [⟨"id", "number"⟩])) ∧
      ∃ above below : String, above ++ below = mixedDocument.text ∧
        LineCut 4 above.toList below.toList ∧
        (Plan.run {} (Buffer.ofDocument mixedDocument)).result = .ok (.inserted "Foo" 1 ⟨4, 0⟩) ∧
        (Plan.run {} (Buffer.ofDocument mixedDocument)).editor.text? =
          some (above ++ Layout.block {} [⟨"id", "number"⟩] ++ below) ∧
        ∃ front last, linesOf (Layout.block {} [⟨"id", "number"⟩]) = front ++ [last] ∧
          linesOf (above ++ Layout.block {} [⟨"id", "number"⟩] ++ below) =
            ["// é", "interface IFooData \x7b", "  id: number;", "\x7d"] ++ front ++
              [last ++ "class Foo \x7b", "\x7d"] := by
  have hps : Plan.properties? {} (Buffer.ofDocument mixedDocument) =
      .ok (some ("Foo", [⟨"id", "number"⟩])) := by decide
  obtain ⟨above, below, htext, hcut, hresult, heditor, hlines⟩ :=
    run_inserts_block rfl hps (by decide)
  obtain ⟨front, last, hblock, hnew⟩ := hlines (by decide)
  exact ⟨hps, above, below, htext, hcut, hresult, by rw [heditor]; rfl, front, last, hblock, hnew⟩

end Accessors.Plan
