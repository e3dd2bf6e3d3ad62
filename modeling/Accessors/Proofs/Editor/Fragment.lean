import Accessors.Editor.Buffer
import Accessors.Proofs.Editor.OpenFile
import Accessors.Proofs.Text.Fragment

/-!
# Edits in fragments

A buffer puts in the text that the fragments make up, so that it does not matter how that text is
cut. A file converts each fragment on its own. There it does matter, and exactly as far as line
breaks are cut in two (`text_insert_eq_iff`): the two characters of such a line break come together
again in the document, where nothing converts them (`text_insert_cut_ne`). For the same reason a
document with line feeds alone can get a line break of two characters
(`pair_isInfix_text_insert_iff`).
-/

namespace Accessors.FileDesk

open Text

theorem text_of_result_ok {desk : FileDesk} {position : Position} {fragments : List String}
    (h : (desk.insert position fragments).result = .ok ()) :
    (desk.insert position fragments).editor.file.text = desk.file.updated position fragments := by
  obtain ⟨-, hfile⟩ | ⟨error, herror, -⟩ := desk.insert_cases position fragments
  · rw [hfile]
  · rw [h] at herror
    cases herror

/-! ## A document with line feeds alone -/

theorem isUnified_insertAt_convert_iff {text : String} (h : '\r' ∉ text.toList)
    (position : Position) (fragments : List String) :
    IsUnified (insertAt text position (fragments.map LineEnding.lf.convert)).toList ↔
      (∀ fragment ∈ fragments, ¬ ['\r', '\r', '\n'] <:+: fragment.toList) ∧
        ∀ done fragment left, fragments = done ++ fragment :: left →
          ¬ PartsLineBreak fragment.toList
            (String.join (left.map LineEnding.lf.convert) ++ (cut text position).2).toList := by
  have hparts : '\r' ∉ (cut text position).1.toList ∧ '\r' ∉ (cut text position).2.toList := by
    rw [← cut_append text position, String.toList_append, List.mem_append, not_or] at h
    exact h
  have hbefore : IsUnified (cut text position).1.toList := isUnified_of_notMem_return hparts.1
  have hafter : IsUnified (cut text position).2.toList := isUnified_of_notMem_return hparts.2
  have hlast : (cut text position).1.toList.getLast? ≠ some '\r' :=
    fun hlast => hparts.1 (List.mem_of_getLast? hlast)
  simp only [insertAt, String.toList_append, List.append_assoc]
  rw [isUnified_append_iff, isUnified_join_convert_iff]
  simp only [hbefore, hafter, not_parts_of_getLast? hlast, not_false_eq_true, true_and, and_true]

/-- **An edit brings a line break of two characters into a document without carriage returns**
exactly if a fragment has two carriage returns in front of a line feed, or ends in a carriage return
that a line feed comes behind: from the fragments that follow, as they are converted, or from the
document. -/
theorem pair_isInfix_text_insert_iff {desk : FileDesk} {path : String} {cursor : Position}
    (hopen : OpenFile.open? desk.tree path cursor = .ok desk.file)
    (hreturn : '\r' ∉ desk.file.text.toList) {position : Position} {fragments : List String}
    (hresult : (desk.insert position fragments).result = .ok ()) :
    ['\r', '\n'] <:+: (desk.insert position fragments).editor.file.text.toList ↔
      (∃ fragment ∈ fragments, ['\r', '\r', '\n'] <:+: fragment.toList) ∨
        ∃ done fragment left, fragments = done ++ fragment :: left ∧
          fragment.toList.getLast? = some '\r' ∧
          (String.join (left.map LineEnding.lf.convert) ++
            (cut desk.file.text position).2).toList.head? = some '\n' := by
  obtain ⟨-, -, -, hending⟩ := OpenFile.of_open? hopen
  have hlf : desk.file.ending = .lf := by
    rw [hending, LineEnding.ofText, ofChars_of_isUnified (isUnified_of_notMem_return hreturn)]
  have hiff := isUnified_insertAt_convert_iff hreturn position fragments
  rw [text_of_result_ok hresult, OpenFile.updated, hlf, ← not_iff_not, ← isUnified_iff, hiff]
  simp only [PartsLineBreak, not_or, not_exists, not_and]

def twoLines : FileDesk :=
  fooDesk "one\ntwo\n" .lf

/-- A carriage return at the end of a line makes a line break with the line feed of the document. -/
theorem pair_isInfix_text_insert_lineEnd :
    let response := twoLines.insert ⟨0, 9⟩ ["\r\n", "// a\r"]
    OpenFile.open? twoLines.tree "Foo.ts" ⟨3, 0⟩ = .ok twoLines.file ∧
      '\r' ∉ twoLines.file.text.toList ∧ response.result = .ok () ∧
      ['\r', '\n'] <:+: response.editor.file.text.toList := by
  have hopen : OpenFile.open? twoLines.tree "Foo.ts" ⟨3, 0⟩ = .ok twoLines.file := by rfl
  have hreturn : '\r' ∉ twoLines.file.text.toList := by decide
  have hresult : (twoLines.insert ⟨0, 9⟩ ["\r\n", "// a\r"]).result = .ok () := by rfl
  refine ⟨hopen, hreturn, hresult, (pair_isInfix_text_insert_iff hopen hreturn hresult).2 ?_⟩
  exact .inr ⟨["\r\n"], "// a\r", [], rfl, by decide, by decide +kernel⟩

/-- **A line break that two fragments share** is put into a document with line feeds alone as it is.
-/
theorem pair_isInfix_text_insert_cut :
    let response := twoLines.insert ⟨1, 0⟩ ["// a\r", "\n"]
    OpenFile.open? twoLines.tree "Foo.ts" ⟨3, 0⟩ = .ok twoLines.file ∧
      '\r' ∉ twoLines.file.text.toList ∧ response.result = .ok () ∧
      ['\r', '\n'] <:+: response.editor.file.text.toList :=
  ⟨by rfl, by decide, by rfl, by decide +kernel⟩

/-! ## The same text in other fragments -/

theorem insertAt_eq_iff (text : String) (position : Position) (fragments others : List String) :
    insertAt text position fragments = insertAt text position others ↔
      String.join fragments = String.join others := by
  rw [insertAt, insertAt, String.append_left_inj, String.append_right_inj]

/-- **How a text is cut into fragments** does not matter to a buffer. To a file it matters exactly
which line breaks of the text are cut in two. -/
theorem text_insert_eq_iff (position : Position) {fragments others : List String}
    (h : String.join fragments = String.join others) :
    (∀ buffer : Buffer, buffer.insert position fragments = buffer.insert position others) ∧
      ∀ desk : FileDesk, (desk.insert position fragments).result = .ok () →
        (desk.insert position others).result = .ok () →
        ((desk.insert position fragments).editor.file.text =
            (desk.insert position others).editor.file.text ↔
          SameBreaksCut (fragments.map String.toList) (others.map String.toList)
            (String.join fragments).toList) := by
  constructor
  · intro buffer
    have hinsert : ∀ text, insertAt text position fragments = insertAt text position others :=
      fun text => (insertAt_eq_iff text position fragments others).2 h
    simp only [Buffer.insert, hinsert]
  · intro desk hresult hresult'
    rw [text_of_result_ok hresult, text_of_result_ok hresult', OpenFile.updated, OpenFile.updated,
      insertAt_eq_iff]
    exact join_convert_eq_iff desk.file.ending h

theorem text_insert_eq_twice :
    let fragments := ["// a\r", "\n// b\r\n"]
    let others := ["// a\r", "", "\n", "// b\r\n"]
    String.join fragments = String.join others ∧
      (twoLines.insert ⟨1, 0⟩ fragments).result = .ok () ∧
      (twoLines.insert ⟨1, 0⟩ others).result = .ok () ∧
      (twoLines.insert ⟨1, 0⟩ fragments).editor.file.text =
        (twoLines.insert ⟨1, 0⟩ others).editor.file.text ∧
      SameBreaksCut (fragments.map String.toList) (others.map String.toList)
        "// a\r\n// b\r\n".toList := by
  have hjoin : String.join ["// a\r", "\n// b\r\n"] =
      String.join ["// a\r", "", "\n", "// b\r\n"] := by decide
  have hresult : (twoLines.insert ⟨1, 0⟩ ["// a\r", "\n// b\r\n"]).result = .ok () := by rfl
  have hresult' :
      (twoLines.insert ⟨1, 0⟩ ["// a\r", "", "\n", "// b\r\n"]).result = .ok () := by rfl
  have htext : (twoLines.insert ⟨1, 0⟩ ["// a\r", "\n// b\r\n"]).editor.file.text =
      (twoLines.insert ⟨1, 0⟩ ["// a\r", "", "\n", "// b\r\n"]).editor.file.text := by
    decide +kernel
  have hsame := ((text_insert_eq_iff ⟨1, 0⟩ hjoin).2 twoLines hresult hresult').1 htext
  exact ⟨hjoin, hresult, hresult', htext, hsame⟩

/-- **A text in two ways, one of which cuts its line break in two**, makes two documents. -/
theorem text_insert_cut_ne :
    String.join ["// a\r", "\n"] = String.join ["// a\r\n"] ∧
      (twoLines.insert ⟨1, 0⟩ ["// a\r", "\n"]).result = .ok () ∧
      (twoLines.insert ⟨1, 0⟩ ["// a\r\n"]).result = .ok () ∧
      (twoLines.insert ⟨1, 0⟩ ["// a\r", "\n"]).editor.file.text ≠
        (twoLines.insert ⟨1, 0⟩ ["// a\r\n"]).editor.file.text :=
  ⟨by decide, by rfl, by rfl, by decide +kernel⟩

end Accessors.FileDesk
