import Accessors.Proofs.Text.Column
import Accessors.Proofs.Text.LineBreak

/-!
# Where text may be put in

Text that is put into a document between two bytes must not split a character, and it should not
come between the carriage return and the line feed of a line break. The places where it does neither
are the insertion points of the document (`IsInsertionPoint`), which are its cuts that part no line
break (`isInsertionPoint_iff`).

Every position leads to an insertion point, and every insertion point is reached. Most are reached
by their line and the number of characters in front of them in it (`cutColumn_line`). A carriage
return at the end of a document is what a column stays in front of, and the place behind it belongs
to the line after the last one. Lines and characters are counted in 32 bits, so this needs a
document of less than `UInt32.size` bytes (`exists_bytesBefore_eq_iff`).
-/

namespace Accessors.Text

/-- Whether text may be put in behind so many bytes of a document: the document has them, they end
where a character ends, and they do not end within a line break. -/
structure IsInsertionPoint (text : String) (offset : Nat) : Prop where
  le_size : offset ≤ text.utf8ByteSize
  isValid : (⟨offset⟩ : String.Pos.Raw).IsValid text
  not_within : ∀ before after, text = before ++ "\r\n" ++ after → offset ≠ before.utf8ByteSize + 1

/-! ## Cuts -/

theorem length_le_byteLength (cs : List Char) : cs.length ≤ byteLength cs := by
  induction cs with
  | nil => exact Nat.le_refl 0
  | cons c cs ih =>
    have := c.utf8Size_pos
    rw [List.length_cons, byteLength]
    omega

theorem utf8ByteSize_eq (text : String) : text.utf8ByteSize = byteLength text.toList := by
  rw [← utf8ByteSize_ofList, String.ofList_toList]

theorem append_inj_of_utf8ByteSize {before after before' after' : String}
    (h : before ++ after = before' ++ after') (hsize : before.utf8ByteSize = before'.utf8ByteSize) :
    before = before' ∧ after = after' := by
  have hcut := cutBytes?_append before.toList after.toList
  have hcut' := cutBytes?_append before'.toList after'.toList
  rw [← utf8ByteSize_eq, ← String.toList_append] at hcut hcut'
  rw [h, hsize, hcut'] at hcut
  obtain ⟨hbefore, hafter⟩ := Prod.mk.inj (Option.some.inj hcut)
  exact ⟨(String.toList_inj.1 hbefore).symm, (String.toList_inj.1 hafter).symm⟩

theorem parts_toList_iff {before after : String} :
    PartsLineBreak before.toList after.toList ↔
      ∃ front back : String, before = front ++ "\r" ∧ after = "\n" ++ back := by
  constructor
  · rintro ⟨hlast, hhead⟩
    obtain ⟨front, hfront⟩ := List.getLast?_eq_some_iff.1 hlast
    obtain ⟨back, hback⟩ := List.head?_eq_some_iff.1 hhead
    refine ⟨String.ofList front, String.ofList back, ?_, ?_⟩
    · rw [← String.toList_inj, hfront]
      simp
    · rw [← String.toList_inj, hback]
      simp
  · rintro ⟨front, back, rfl, rfl⟩
    constructor <;> simp

theorem append_lineBreak_append (front back : String) :
    front ++ "\r\n" ++ back = (front ++ "\r") ++ ("\n" ++ back) := by
  rw [show "\r\n" = "\r" ++ "\n" from rfl]
  simp only [String.append_assoc]

theorem utf8ByteSize_append_return (front : String) :
    (front ++ "\r").utf8ByteSize = front.utf8ByteSize + 1 := by
  rw [String.utf8ByteSize_append]
  rfl

/-- **The insertion points of a document are its cuts that part no line break.** -/
theorem isInsertionPoint_iff {text : String} {offset : Nat} :
    IsInsertionPoint text offset ↔ ∃ before after : String, before ++ after = text ∧
      before.utf8ByteSize = offset ∧ ¬ PartsLineBreak before.toList after.toList := by
  constructor
  · intro h
    obtain ⟨before, after, rfl, hoffset⟩ := String.Pos.Raw.isValid_iff_exists_append.1 h.isValid
    have hsize : offset = before.utf8ByteSize := congrArg String.Pos.Raw.byteIdx hoffset
    refine ⟨before, after, rfl, hsize.symm, fun hparts => ?_⟩
    obtain ⟨front, back, rfl, rfl⟩ := parts_toList_iff.1 hparts
    apply h.not_within front back (append_lineBreak_append front back).symm
    rw [hsize, utf8ByteSize_append_return]
  · rintro ⟨before, after, rfl, rfl, hparts⟩
    refine ⟨?_, String.Pos.Raw.isValid_iff_exists_append.2 ⟨before, after, rfl, rfl⟩, ?_⟩
    · rw [String.utf8ByteSize_append]
      exact Nat.le_add_right _ _
    · intro front back htext hsize
      apply hparts
      rw [append_lineBreak_append] at htext
      rw [← utf8ByteSize_append_return] at hsize
      obtain ⟨hbefore, hafter⟩ := append_inj_of_utf8ByteSize htext hsize
      exact parts_toList_iff.2 ⟨front, back, hbefore, hafter⟩

theorem isInsertionPoint_bytesBefore (text : String) (position : Position) :
    IsInsertionPoint text (bytesBefore text position) :=
  isInsertionPoint_iff.2
    ⟨_, _, cut_append text position, rfl, cut_not_parts text position⟩

theorem cutBytes?_bytesBefore (text : String) (position : Position) :
    cutBytes? (bytesBefore text position) text.toList =
      some ((cut text position).1.toList, (cut text position).2.toList) := by
  have hcut := cutBytes?_append (cut text position).1.toList (cut text position).2.toList
  rwa [← String.toList_append, cut_append, ← utf8ByteSize_eq] at hcut

/-! ## The position of a cut -/

theorem atLineEnd_eq_false {c : Char} {cs : List Char} (hc : c ≠ '\n')
    (hr : c = '\r' → cs ≠ [] ∧ cs.head? ≠ some '\n') : atLineEnd (c :: cs) = false := by
  by_cases hreturn : c = '\r'
  · obtain ⟨hne, hhead⟩ := hr hreturn
    obtain ⟨d, ds, rfl⟩ := List.exists_cons_of_ne_nil hne
    have hd : d ≠ '\n' := by simpa using hhead
    simp [atLineEnd, hc, hd]
  · simp [atLineEnd, hc, hreturn]

/-- A column leads as far into a line as its characters, but not behind a carriage return in front
of a line feed or of the end. -/
theorem cutColumn_line {line after : List Char} (hline : '\n' ∉ line)
    (hreturn : line.getLast? = some '\r' → after ≠ [] ∧ after.head? ≠ some '\n') :
    cutColumn line.length (line ++ after) = (line, after) := by
  induction line with
  | nil => rfl
  | cons c line ih =>
    have hc : c ≠ '\n' := fun e => hline (by simp [e])
    have hrest : '\n' ∉ line := fun hmem => hline (List.mem_cons_of_mem c hmem)
    have hend : atLineEnd (c :: (line ++ after)) = false := by
      refine atLineEnd_eq_false hc fun hr => ?_
      cases line with
      | nil => exact hreturn (by simp [hr])
      | cons d ds =>
        have hd : d ≠ '\n' := fun e => hrest (by simp [e])
        exact ⟨List.cons_ne_nil _ _, by simpa using hd⟩
    have ih' := ih hrest fun hlast => hreturn ?_
    · rw [List.length_cons, List.cons_append, cutColumn, hend, ih']
      rfl
    · rw [List.getLast?_cons, hlast]
      rfl

theorem exists_lastLine (cs : List Char) :
    ∃ above line, above ++ line = cs ∧ LineCut.Within (cs.count '\n') above ∧ '\n' ∉ line := by
  have hwithin := (lineCut_cutLine (cs.count '\n') cs).within (by rw [cutLine_append])
  refine ⟨_, _, cutLine_append (cs.count '\n') cs, hwithin, fun hmem => ?_⟩
  have hcount := congrArg (List.count '\n') (cutLine_append (cs.count '\n') cs)
  rw [List.count_append, hwithin.count] at hcount
  have := List.count_pos_iff.2 hmem
  omega

theorem exists_cutAt_eq {before after : List Char} (h : ¬ PartsLineBreak before after) :
    ∃ line character, line ≤ before.length ∧ character ≤ before.length ∧
      cutAt line character (before ++ after) = (before, after) := by
  have hcount : before.count '\n' ≤ before.length := List.count_le_length
  by_cases hend : before.getLast? = some '\r' ∧ after = []
  · -- behind a carriage return at the end there is the line past the last one only
    obtain ⟨hlast, rfl⟩ := hend
    obtain ⟨front, rfl⟩ := List.getLast?_eq_some_iff.1 hlast
    refine ⟨(front ++ ['\r']).count '\n' + 1, 0, ?_, Nat.zero_le _, ?_⟩
    · rw [List.count_append, List.length_append]
      exact Nat.succ_le_succ List.count_le_length
    · rw [cutAt, List.append_nil, cutLine_of_count_lt (Nat.lt_succ_self _)]
      simp [cutColumn]
  · obtain ⟨above, line, rfl, hwithin, hline⟩ := exists_lastLine before
    refine ⟨_, line.length, hcount, by simp, ?_⟩
    have hcolumn : cutColumn line.length (line ++ after) = (line, after) := by
      refine cutColumn_line hline fun hlast => ?_
      have hlast' : (above ++ line).getLast? = some '\r' := by
        rw [List.getLast?_append, hlast]
        rfl
      exact ⟨fun hnil => hend ⟨hlast', hnil⟩, fun hhead => h ⟨hlast', hhead⟩⟩
    rw [cutAt, List.append_assoc, cutLine_of_lineCut (hwithin.lineCut _)]
    simp only [hcolumn]

theorem exists_cut_eq {before after : String}
    (hsize : (before ++ after).utf8ByteSize < UInt32.size)
    (h : ¬ PartsLineBreak before.toList after.toList) :
    ∃ position, cut (before ++ after) position = (before, after) := by
  obtain ⟨line, character, hline, hcharacter, hcut⟩ := exists_cutAt_eq h
  have hlength := length_le_byteLength before.toList
  rw [String.utf8ByteSize_append, utf8ByteSize_eq before] at hsize
  refine ⟨⟨UInt32.ofNat line, UInt32.ofNat character⟩, ?_⟩
  have hline' : (UInt32.ofNat line).toNat = line :=
    UInt32.toNat_ofNat_of_lt' (by omega)
  have hcharacter' : (UInt32.ofNat character).toNat = character :=
    UInt32.toNat_ofNat_of_lt' (by omega)
  simp only [cut, hline', hcharacter', String.toList_append, hcut, String.ofList_toList]

/-- **The places that positions lead to are the insertion points**, all of them if the document is
not too long for the numbers of its lines and characters. In a document of any length, a position
leads to an insertion point; there the bytes of the document can be cut, and text that is put in
comes between the two parts. -/
theorem exists_bytesBefore_eq_iff (text : String) :
    (text.utf8ByteSize < UInt32.size → ∀ offset,
      (∃ position, bytesBefore text position = offset) ↔ IsInsertionPoint text offset) ∧
    ∀ position, IsInsertionPoint text (bytesBefore text position) ∧
      ∃ before after, cutBytes? (bytesBefore text position) text.toList = some (before, after) ∧
        ¬ PartsLineBreak before after ∧
        ∀ fragments, insertAt text position fragments =
          String.ofList before ++ String.join fragments ++ String.ofList after := by
  refine ⟨fun hsize offset => ⟨?_, fun hpoint => ?_⟩, fun position => ⟨?_, ?_⟩⟩
  · rintro ⟨position, rfl⟩
    exact isInsertionPoint_bytesBefore text position
  · obtain ⟨before, after, rfl, rfl, hparts⟩ := isInsertionPoint_iff.1 hpoint
    obtain ⟨position, hcut⟩ := exists_cut_eq hsize hparts
    exact ⟨position, by rw [bytesBefore, hcut]⟩
  · exact isInsertionPoint_bytesBefore text position
  · refine ⟨_, _, cutBytes?_bytesBefore text position, cut_not_parts text position, ?_⟩
    intro fragments
    rw [String.ofList_toList, String.ofList_toList]
    rfl

/-- In this document there is a place behind the last carriage return, but not within the line
break in front of it. -/
theorem exists_bytesBefore_eq_iff_returns :
    let text := "é\r\n\r"
    text.utf8ByteSize < UInt32.size ∧ (∃ position, bytesBefore text position = 5) ∧
      ¬ ∃ position, bytesBefore text position = 3 := by
  have hsize : "é\r\n\r".utf8ByteSize < UInt32.size := by decide
  have hiff := (exists_bytesBefore_eq_iff "é\r\n\r").1 hsize
  refine ⟨hsize, (hiff 5).2 ⟨by decide, by decide, ?_⟩, fun h => ?_⟩
  · intro before after htext
    have := congrArg String.utf8ByteSize htext
    rw [String.utf8ByteSize_append, String.utf8ByteSize_append,
      show "é\r\n\r".utf8ByteSize = 5 by decide, show "\r\n".utf8ByteSize = 2 by decide] at this
    omega
  · exact ((hiff 3).1 h).not_within "é" "\r" (by decide) (by decide)

end Accessors.Text
