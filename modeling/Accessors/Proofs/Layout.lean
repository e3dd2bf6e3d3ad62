import Accessors.Layout
import Accessors.Proofs.Text.Lines

/-!
# The last line of a block

A block of accessors stops within a line: its last line is the closing brace of the last setter
(`lastLine`), and whatever stands behind the block is glued to that brace (`exists_linesOf_block`).
-/

namespace Accessors.Layout

/-- The line that a member ends in. -/
def lastLine (layout : Layout) : String :=
  layout.margin ++ "\x7d"

theorem toList_lastLine (layout : Layout) :
    layout.lastLine.toList = List.replicate layout.indent ' ' ++ ['\x7d'] := by
  simp [lastLine, margin]

theorem notMem_lastLine (layout : Layout) {c : Char} (hspace : c ≠ ' ') (hbrace : c ≠ '\x7d') :
    c ∉ layout.lastLine.toList := by
  simp [toList_lastLine, hspace, hbrace]

theorem lastLine_ne_empty (layout : Layout) : layout.lastLine ≠ "" := by
  intro h
  have := congrArg String.toList h
  simp [toList_lastLine] at this

theorem getLast?_lastLine_ne (layout : Layout) : layout.lastLine.toList.getLast? ≠ some '\r' := by
  simp [toList_lastLine]

theorem exists_member_eq (layout : Layout) (signature body : String) :
    ∃ front, layout.member signature body = front ++ "\n" ++ layout.lastLine := by
  refine ⟨layout.margin ++ signature ++ " \x7b\n" ++ layout.margin ++ layout.margin ++ body, ?_⟩
  simp only [member, lastLine, String.append_assoc]

theorem exists_fragments_eq (layout : Layout) {ps : List Property} (hne : ps ≠ []) :
    ∃ front p, layout.fragments ps = front ++ [layout.setter p] := by
  fun_induction fragments layout ps with
  | case1 => exact absurd rfl hne
  | case2 p => exact ⟨[layout.getter p, separator], p, rfl⟩
  | case3 p q ps ih =>
    obtain ⟨front, r, hr⟩ := ih (List.cons_ne_nil q ps)
    refine ⟨layout.getter p :: separator :: layout.setter p :: separator :: front, r, ?_⟩
    rw [hr]
    rfl

theorem exists_block_eq (layout : Layout) {ps : List Property} (hne : ps ≠ []) :
    ∃ front, layout.block ps = front ++ "\n" ++ layout.lastLine := by
  obtain ⟨fragments, p, hp⟩ := layout.exists_fragments_eq hne
  obtain ⟨front, hfront⟩ : ∃ front, layout.setter p = front ++ "\n" ++ layout.lastLine :=
    layout.exists_member_eq _ _
  refine ⟨String.join fragments ++ front, ?_⟩
  simp only [block, hp, hfront, String.join_append, String.join_cons, String.join_nil,
    String.append_empty, String.append_assoc]

theorem getLast?_block (layout : Layout) {ps : List Property} (hne : ps ≠ []) :
    (layout.block ps).toList.getLast? = some '\x7d' := by
  obtain ⟨front, hfront⟩ := layout.exists_block_eq hne
  rw [hfront, String.toList_append, toList_lastLine, ← List.append_assoc, List.getLast?_concat]

/-- **The text behind a block is glued to its last line**, and the lines in front of that do not
depend on it. -/
theorem exists_linesOf_block (layout : Layout) {ps : List Property} (hne : ps ≠ []) :
    ∃ front : List String, ∀ text : String, Text.linesOf (layout.block ps ++ text) =
      front ++ (layout.lastLine ++ (Text.linesOf text).headD "") :: (Text.linesOf text).tail := by
  obtain ⟨front, hfront⟩ := layout.exists_block_eq hne
  have hended : Text.Ended (front ++ "\n").toList := by
    rw [String.toList_append]
    exact Text.ended_concat front.toList
  refine ⟨Text.linesOf (front ++ "\n"), fun text => ?_⟩
  rw [hfront, String.append_assoc, Text.linesOf_append hended,
    Text.linesOf_append_open layout.lastLine_ne_empty
      (layout.notMem_lastLine (by decide) (by decide)) layout.getLast?_lastLine_ne]

end Accessors.Layout
