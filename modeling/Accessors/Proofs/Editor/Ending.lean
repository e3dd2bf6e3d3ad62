import Accessors.Proofs.Editor.Agreement

/-!
# Line endings that are found again

The line ending of a file is looked for once, when the file is opened. An edit of a plan does not
change what would be found (`FileDesk.ofText_edit`): if there is a line break above the block,
that is the first one before and after; and if there is none, the block is the start of the text and
is in the line ending of the file itself. A block at the end of a text without line breaks would
bring in its own, but there are no properties in such a text (`Query.mem_of_properties_ne_nil`).
-/

namespace Accessors

open Text

/-! ## The first line break -/

namespace Text

theorem ofChars_cons {c : Char} {cs : List Char} (hc : c ≠ '\n')
    (hpair : c = '\r' → cs.head? ≠ some '\n') : LineEnding.ofChars (c :: cs) = .ofChars cs := by
  rw [LineEnding.ofChars]
  · exact hc
  · rintro ds rfl rfl
    exact hpair rfl rfl

theorem ofChars_append {above : List Char} (h : '\n' ∈ above) (below : List Char) :
    LineEnding.ofChars (above ++ below) = .ofChars above := by
  fun_induction LineEnding.ofChars above with
  | case1 => simp at h
  | case2 cs => rfl
  | case3 cs => rfl
  | case4 c cs hc hpair ih =>
    have hcs : '\n' ∈ cs := by
      rcases List.mem_cons.1 h with rfl | hcs
      · exact (hc rfl).elim
      · exact hcs
    rw [List.cons_append, ofChars_cons (fun heq => hc heq), ih hcs]
    intro hreturn hhead
    rw [List.head?_append_of_ne_nil _ (List.ne_nil_of_mem hcs)] at hhead
    obtain ⟨ds, rfl⟩ := List.head?_eq_some_iff.1 hhead
    exact hpair ds hreturn rfl

theorem mem_spread (ending : LineEnding) {cs : List Char} (h : '\n' ∈ cs) :
    '\n' ∈ ending.spread cs := by
  rw [← List.count_pos_iff, LineEnding.count_spread]
  exact List.count_pos_iff.2 h

theorem ofChars_spread (ending : LineEnding) {cs : List Char} (h : IsUnified cs)
    (hmem : '\n' ∈ cs) : LineEnding.ofChars (ending.spread cs) = ending := by
  cases ending with
  | lf => rw [LineEnding.spread_lf, ofChars_of_isUnified h]
  | crlf => exact ofChars_of_isPaired (isPaired_spread_crlf cs) (mem_spread .crlf hmem)

theorem length_linesOf_le {text : String} (h : '\n' ∉ text.toList) : (linesOf text).length ≤ 1 := by
  have hlength := length_lines_le text.toList
  rwa [List.count_eq_zero.2 h, ← List.length_map String.ofList] at hlength

theorem LineCut.eq_nil_of_notMem {n : Nat} {above below : List Char} (h : LineCut n above below)
    (hmem : '\n' ∈ above ++ below) (habove : '\n' ∉ above) : above = [] := by
  cases h with
  | first => rfl
  | behind => simp at habove
  | past =>
    rw [List.append_nil] at hmem
    exact absurd hmem habove

end Text

/-! ## Edits of a plan -/

theorem Query.mem_of_properties_ne_nil {query : Query} {text declaration : String}
    (h : query.properties (linesOf text) declaration ≠ []) : '\n' ∈ text.toList := by
  by_contra hbreak
  have hlength := length_linesOf_le hbreak
  apply h
  rw [properties]
  split
  · rfl
  · rename_i index body hlocate
    obtain ⟨header, hdrop, -⟩ := locate?_eq_some hlocate
    have hbody : body = [] := by
      have hcount := congrArg List.length hdrop
      rw [List.length_drop, List.length_cons] at hcount
      exact List.eq_nil_of_length_eq_zero (by omega)
    rw [hbody]
    rfl

theorem Layout.mem_block (layout : Layout) {ps : List Property} (hne : ps ≠ []) :
    '\n' ∈ (layout.block ps).toList := by
  obtain ⟨front, hfront⟩ := layout.exists_block_eq hne
  simp [hfront]

/-- **A block in the line ending of a document does not change it**, at the start of any line. -/
theorem Layout.ofText_insert (layout : Layout) {ps : List Property} (hne : ps ≠ [])
    (hps : ∀ p ∈ ps, p.IsOneLine) {n : Nat} {above below : String}
    (hcut : LineCut n above.toList below.toList) (hbreak : '\n' ∈ (above ++ below).toList)
    {ending : LineEnding} (hending : ending = .ofText (above ++ below)) :
    LineEnding.ofText
      (above ++ String.ofList (ending.spread (layout.block ps).toList) ++ below) = ending := by
  rw [String.toList_append] at hbreak
  rw [LineEnding.ofText, String.toList_append] at hending
  simp only [LineEnding.ofText, String.toList_append, String.toList_ofList, List.append_assoc]
  by_cases habove : '\n' ∈ above.toList
  · -- the first line break is above the block, before and after
    rw [ofChars_append habove, hending, ofChars_append habove]
  · -- the text starts with the block, and that has a line break
    have hblock : LineEnding.ofChars (ending.spread (layout.block ps).toList) = ending :=
      ofChars_spread ending (isUnified_block hps) (layout.mem_block hne)
    rw [hcut.eq_nil_of_notMem hbreak habove, List.nil_append,
      ofChars_append (mem_spread ending (layout.mem_block hne)), hblock]

theorem FileDesk.ofText_edit {desk : FileDesk} {plan : Plan} {declaration : String}
    {ps : List Property} {cursor : Position} (hfinds : plan.Finds desk declaration ps cursor)
    (hne : ps ≠ []) (hresult : ((plan.edit ps cursor).perform desk).result = .ok ())
    (hending : desk.file.ending = .ofText desk.file.text) :
    LineEnding.ofText ((plan.edit ps cursor).perform desk).editor.file.text =
      desk.file.ending := by
  have hps : ∀ p ∈ ps, p.IsOneLine := hfinds.isOneLine rfl
  have hbreak : '\n' ∈ desk.file.text.toList := by
    obtain ⟨lines, fileName, hlines, -, -, -, hps⟩ := hfinds
    obtain rfl := Option.some.inj hlines
    obtain ⟨-, rfl⟩ := Query.extract_eq_ok_iff.1 hps
    exact Query.mem_of_properties_ne_nil hne
  obtain ⟨above, below, htext, hcut⟩ := exists_lineCut cursor.line.toNat desk.file.text
  rw [← htext] at hbreak hending
  rw [FileDesk.file_edit hps hresult htext hcut]
  exact plan.layout.ofText_insert hne hps hcut hbreak hending

end Accessors
