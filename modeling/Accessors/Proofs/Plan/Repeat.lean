import Accessors.Proofs.Declaration.Block
import Accessors.Proofs.Declaration.Header
import Accessors.Proofs.Plan.Run

/-!
# Running a plan again

What a run inserts is part of the document that the next run reads. Where it neither moves the line
with the cursor nor changes what is found, the runs put one copy of the block in front of the other
(`runs_replicate`). That is so on a line below the closed interface, because the lines in front of
it stay (`properties_eq_of_closed`), and on a line above the header, if no line of the block holds a
header of its own (`properties_copies_append`): together `runs_replicate_inserts_copies`.

A line past the end of the document is a different matter. The first run makes the document longer,
and the same line number may then stand for a line of the first copy: `runs_twice_past_end` says
where the second copy goes, and that it goes behind the first one exactly if the line is past the
end of that too.
-/

namespace Accessors.Plan

open Declaration Text

/-! ## What the next run finds -/

theorem properties_eq_of_closed {query : Query} {declaration above : String}
    (hended : Ended above.toList) {block : Query.Block (query.interface declaration)}
    {after : List String} (hlines : linesOf above = block.lines ++ after) (below below' : String) :
    query.properties (linesOf (above ++ below)) declaration =
      query.properties (linesOf (above ++ below')) declaration := by
  rw [linesOf_append hended, linesOf_append hended, hlines, List.append_assoc, List.append_assoc,
    block.properties_eq, block.properties_eq]

section Copies

variable {query : Query} {layout : Layout} {declaration : String} {ps : List Property}

/-- A block without a header in front of a text does not change what is found. The line that is
glued to its last line holds a header exactly if it did before. -/
theorem properties_block_append (hne : ps ≠ [])
    (hblock : ∀ line ∈ linesOf (layout.block ps),
      Header.occursIn (query.interface declaration) line = false) (text : String) :
    query.properties (linesOf (layout.block ps ++ text)) declaration =
      query.properties (linesOf text) declaration := by
  obtain ⟨front, hfront⟩ := layout.exists_linesOf_block hne
  have hlines : linesOf (layout.block ps) = front ++ [layout.lastLine] := by
    simpa [linesOf_empty] using hfront ""
  rw [hlines] at hblock
  rw [hfront, Query.properties_append fun line hline => hblock line (List.mem_append_left _ hline)]
  cases linesOf text with
  | nil =>
    have hlast : ∀ line ∈ [layout.lastLine],
        Header.occursIn (query.interface declaration) line = false :=
      fun line hline => hblock line (List.mem_append_right _ hline)
    simpa using Query.properties_append hlast []
  | cons line lines =>
    -- the glued line may hold a header, but then `line` holds it alone
    have hi : 'i' ∉ layout.lastLine.toList := layout.notMem_lastLine (by decide) (by decide)
    exact Query.properties_cons_congr (Header.occursIn_append_left hi _ line) lines

theorem properties_copies_append (hne : ps ≠ [])
    (hblock : ∀ line ∈ linesOf (layout.block ps),
      Header.occursIn (query.interface declaration) line = false) (n : Nat) (text : String) :
    query.properties (linesOf (String.join (List.replicate n (layout.block ps)) ++ text))
        declaration =
      query.properties (linesOf text) declaration := by
  induction n with
  | zero => simp
  | succ n ih =>
    rw [List.replicate_succ, String.join_cons, String.append_assoc,
      properties_block_append hne hblock, ih]

end Copies

/-! ## Runs on a line of the document -/

/-- Runs that find the same properties each time, at the start of a line that the document has, put
one copy of the block in front of the other. -/
theorem runs_replicate {plan : Plan} {document : Document} {declaration : String}
    {ps : List Property} (hne : ps ≠ [])
    (hname : plan.declarationOf? document.fileName = some declaration) {above below : String}
    (hwithin : LineCut.Within document.cursor.line.toNat above.toList)
    (hkeep : ∀ k, plan.query.extract (linesOf (above ++
      (String.join (List.replicate k (plan.layout.block ps)) ++ below))) declaration = .ok ps)
    (n k edits : Nat) :
    let state (k edits : Nat) : Buffer :=
      { document := some { document with
          text := above ++ (String.join (List.replicate k (plan.layout.block ps)) ++ below) }
        edits }
    runs (List.replicate n plan) (state k edits) =
      (List.replicate n (.ok (.inserted declaration ps.length ⟨document.cursor.line, 0⟩)),
        state (k + n) (edits + n)) := by
  intro state
  -- `k` copies stand below the start of the line already, and each run adds one in front of them
  induction n generalizing k edits with
  | zero => rfl
  | succ n ih =>
    have hps : plan.properties? (state k edits) = .ok (some (declaration, ps)) :=
      properties?_buffer_eq_some_iff.2 ⟨hname, hkeep k⟩
    obtain ⟨hresult, heditor⟩ := run_buffer hps hne rfl (hwithin.lineCut _)
    have hnext : (plan.run (state k edits)).editor = state (k + 1) (edits + 1) := by
      rw [heditor]
      simp only [state, List.replicate_succ, String.join_cons, String.append_assoc]
    rw [List.replicate_succ, runs, hnext, ih (k + 1) (edits + 1), hresult, List.replicate_succ,
      Nat.add_right_comm k 1 n, Nat.add_right_comm edits 1 n]
    rfl

/-- **Runs on a line outside of the declaration put in back-to-back copies.** The line is below the
one that closes the interface, or not below its header while no line of the block holds a header. -/
theorem runs_replicate_inserts_copies {plan : Plan} {buffer : Buffer} {document : Document}
    (hopen : buffer.document = some document) {declaration : String} {ps : List Property}
    (hps : plan.properties? buffer = .ok (some (declaration, ps))) (hne : ps ≠ [])
    {header : Nat} {body : List String}
    (hheader : Query.locate? (plan.query.interface declaration) (linesOf document.text) =
      some (header, body))
    (hline : document.cursor.line.toNat ≤ document.text.toList.count '\n')
    (houtside :
      (∃ closing, Query.closingLine? (plan.query.interface declaration) (linesOf document.text) =
        some closing ∧ closing < document.cursor.line.toNat) ∨
      document.cursor.line.toNat ≤ header ∧ ∀ line ∈ linesOf (plan.layout.block ps),
        Header.occursIn (plan.query.interface declaration) line = false) :
    ∃ above below : String, above ++ below = document.text ∧
      LineCut document.cursor.line.toNat above.toList below.toList ∧
      ∀ n, runs (List.replicate n plan) buffer =
        (List.replicate n (.ok (.inserted declaration ps.length ⟨document.cursor.line, 0⟩)),
          { document := some { document with
              text := above ++ String.join (List.replicate n (plan.layout.block ps)) ++ below }
            edits := buffer.edits + n }) := by
  obtain ⟨opened, edits⟩ := buffer
  obtain rfl : opened = some document := hopen
  obtain ⟨hname, hfound⟩ := properties?_buffer_eq_some_iff.1 hps
  obtain ⟨above, below, htext, hcut⟩ := exists_lineCut document.cursor.line.toNat document.text
  have hwithin : LineCut.Within document.cursor.line.toNat above.toList :=
    hcut.within (by rw [← String.toList_append, htext]; exact hline)
  have habove := hwithin.take_linesOf below
  rw [htext] at habove
  have hkeep : ∀ k, plan.query.extract (linesOf (above ++
      (String.join (List.replicate k (plan.layout.block ps)) ++ below))) declaration = .ok ps := by
    intro k
    refine (Query.extract_congr ?_).trans hfound
    rw [← htext]
    rcases houtside with ⟨closing, hclosing, hbelow⟩ | ⟨hnotBelow, hblock⟩
    -- the whole interface stands above the line, so that nothing below it matters
    · obtain ⟨block, after, hlines, hlength⟩ := Query.exists_block hclosing
      have hlinesAbove : linesOf above =
          block.lines ++ after.take (document.cursor.line.toNat - block.lines.length) := by
        rw [← habove, hlines, List.take_append, List.take_of_length_le (by omega)]
      exact properties_eq_of_closed hwithin.ended hlinesAbove _ _
    -- the header stands below the copies, which are passed over in search of it
    · obtain ⟨before, line, hlines, rfl, hbefore, -⟩ := Query.locate?_eq_some_iff.1 hheader
      have hnone : ∀ line ∈ linesOf above,
          Header.occursIn (plan.query.interface declaration) line = false := by
        intro l hl
        rw [← habove, hlines, List.take_append_of_le_length hnotBelow] at hl
        exact hbefore l (List.mem_of_mem_take hl)
      rw [linesOf_append hwithin.ended, linesOf_append hwithin.ended,
        Query.properties_append hnone, Query.properties_append hnone,
        properties_copies_append hne hblock]
  refine ⟨above, below, htext, hcut, fun n => ?_⟩
  have hruns := runs_replicate hne hname hwithin hkeep n 0 edits
  simpa [htext, String.append_assoc] using hruns

/-- A document of three lines. -/
def threeLines (line : UInt32) : Document :=
  ⟨"Foo.ts", "interface IFooData \x7b\n  id: number;\n\x7d\n", ⟨line, 0⟩⟩

theorem runs_replicate_inserts_copies_first :
    Query.locate? "IFooData" (linesOf (threeLines 0).text) = some (0, ["  id: number;", "\x7d"]) ∧
      ∃ above below : String, above ++ below = (threeLines 0).text ∧
        LineCut 0 above.toList below.toList ∧
        ∀ n, (runs (List.replicate n ({} : Plan)) (Buffer.ofDocument (threeLines 0))).2.text? =
          some (above ++ String.join (List.replicate n (Layout.block {} [⟨"id", "number"⟩])) ++
            below) := by
  have hps : Plan.properties? {} (Buffer.ofDocument (threeLines 0)) =
      .ok (some ("Foo", [⟨"id", "number"⟩])) := by decide
  have hheader : Query.locate? "IFooData" (linesOf (threeLines 0).text) =
      some (0, ["  id: number;", "\x7d"]) := by decide
  obtain ⟨above, below, htext, hcut, hruns⟩ :=
    runs_replicate_inserts_copies rfl hps (by decide) hheader (by decide)
      (.inr (by decide +kernel))
  exact ⟨hheader, above, below, htext, hcut, fun n => by rw [hruns n]; rfl⟩

/-! ## Runs past the end of the document -/

theorem insert_eq_copies_iff {front rest block : String} (h : front ++ rest = block)
    (text : String) :
    text ++ front ++ block ++ rest = text ++ block ++ block ↔ block = rest ++ front := by
  subst h
  simp only [String.append_assoc, String.append_right_inj]
  rw [← String.append_assoc, ← String.append_assoc, String.append_left_inj]

/-- The parts of a block around the start of a line can be swapped only if the line is past its end:
otherwise the part above the line ends in a line feed, which the block does not. -/
theorem block_eq_swap_iff {layout : Layout} {ps : List Property} (hne : ps ≠ []) {n : Nat}
    (hn : 0 < n) {front rest : String} (h : front ++ rest = layout.block ps)
    (hcut : LineCut n front.toList rest.toList) :
    layout.block ps = rest ++ front ↔ (layout.block ps).toList.count '\n' < n := by
  constructor
  · intro hswap
    refine Nat.lt_of_not_le fun hle => ?_
    rw [← h, String.toList_append] at hle
    have hfront : front.toList.getLast? = some '\n' := (hcut.within hle).getLast?_eq hn
    have hlast := layout.getLast?_block hne
    rw [hswap, String.toList_append, List.getLast?_append, hfront] at hlast
    cases hl : rest.toList.getLast? <;> simp [hl] at hlast
  · intro hlt
    rw [← h, String.toList_append] at hlt
    have hrest : rest = "" := String.toList_eq_nil_iff.1 (hcut.eq_nil_of_count_lt hlt)
    rw [← h, hrest, String.append_empty, String.empty_append]

/-- **Two runs on a line past the end of a document that ends in a line feed.** The first copy of
the block goes to the end. The second one goes to the line of the first copy that has the number
which is left when the lines of the document are taken off, and that is behind the first copy
exactly if the line is past the end of this copy as well. -/
theorem runs_twice_past_end {plan : Plan} {buffer : Buffer} {document : Document}
    (hopen : buffer.document = some document) {declaration : String} {ps : List Property}
    (hps : plan.properties? buffer = .ok (some (declaration, ps))) (hne : ps ≠ [])
    (hclosed : (Query.closingLine? (plan.query.interface declaration)
      (linesOf document.text)).isSome)
    (hended : document.text.toList.getLast? = some '\n')
    (hpast : document.text.toList.count '\n' < document.cursor.line.toNat) :
    ∃ front rest : String, front ++ rest = plan.layout.block ps ∧
      LineCut (document.cursor.line.toNat - document.text.toList.count '\n')
        front.toList rest.toList ∧
      runs [plan, plan] buffer =
        (List.replicate 2 (.ok (.inserted declaration ps.length ⟨document.cursor.line, 0⟩)),
          { document := some { document with
              text := document.text ++ front ++ plan.layout.block ps ++ rest }
            edits := buffer.edits + 2 }) ∧
      (document.text ++ front ++ plan.layout.block ps ++ rest =
          document.text ++ plan.layout.block ps ++ plan.layout.block ps ↔
        document.text.toList.count '\n' + (plan.layout.block ps).toList.count '\n' <
          document.cursor.line.toNat) := by
  obtain ⟨opened, edits⟩ := buffer
  obtain rfl : opened = some document := hopen
  obtain ⟨hname, hfound⟩ := properties?_buffer_eq_some_iff.1 hps
  obtain ⟨closing, hclosing⟩ := Option.isSome_iff_exists.1 hclosed
  obtain ⟨block, after, hlines, -⟩ := Query.exists_block hclosing
  have hendedText : Ended document.text.toList := by
    intro c hc
    exact (Option.some.inj (hended.symm.trans hc)).symm
  have hleft : 0 < document.cursor.line.toNat - document.text.toList.count '\n' := by omega
  obtain ⟨front, rest, hblock, hcut⟩ := exists_lineCut
    (document.cursor.line.toNat - document.text.toList.count '\n') (plan.layout.block ps)
  refine ⟨front, rest, hblock, hcut, ?_, ?_⟩
  · have hfirst := run_buffer hps hne (String.append_empty) (.past hpast)
    rw [String.append_empty] at hfirst
    -- the second run reads the same interface, and cuts the document within the first copy
    have hagain : plan.query.extract
        (linesOf (document.text ++ plan.layout.block ps)) declaration = .ok ps := by
      refine (Query.extract_congr ?_).trans hfound
      rw [properties_eq_of_closed hendedText hlines _ "", String.append_empty]
    have htext : document.text ++ front ++ rest = document.text ++ plan.layout.block ps := by
      rw [String.append_assoc, hblock]
    have hcut' :
        LineCut document.cursor.line.toNat (document.text ++ front).toList rest.toList := by
      have := hcut.append_left hleft document.text.toList
      rwa [Nat.add_sub_of_le (Nat.le_of_lt hpast), ← String.toList_append] at this
    let first : Document := { document with text := document.text ++ plan.layout.block ps }
    have hps' : plan.properties? (Buffer.mk (some first) (edits + 1)) =
        .ok (some (declaration, ps)) :=
      properties?_buffer_eq_some_iff.2 ⟨hname, hagain⟩
    have hsecond := run_buffer hps' hne htext hcut'
    simp only [runs, hfirst, hsecond, first]
    rfl
  · rw [insert_eq_copies_iff hblock, block_eq_swap_iff hne hleft hblock hcut]
    omega

theorem runs_twice_past_end_far :
    Plan.properties? {} (Buffer.ofDocument (threeLines 40)) =
        .ok (some ("Foo", [⟨"id", "number"⟩])) ∧
      (runs [({} : Plan), {}] (Buffer.ofDocument (threeLines 40))).2.text? =
        some ((threeLines 40).text ++ Layout.block {} [⟨"id", "number"⟩] ++
          Layout.block {} [⟨"id", "number"⟩]) := by
  have hps : Plan.properties? {} (Buffer.ofDocument (threeLines 40)) =
      .ok (some ("Foo", [⟨"id", "number"⟩])) := by decide
  obtain ⟨front, rest, -, -, hruns, hcopies⟩ :=
    runs_twice_past_end rfl hps (by decide) (by decide) (by decide) (by decide)
  have htext := hcopies.2 (by decide +kernel)
  exact ⟨hps, by rw [hruns]; exact congrArg some htext⟩

/-- Line 4 is past the end of a document of three lines, but it is a line of the first copy. -/
theorem runs_twice_past_end_near :
    Plan.properties? {} (Buffer.ofDocument (threeLines 4)) =
        .ok (some ("Foo", [⟨"id", "number"⟩])) ∧
      (Query.closingLine? "IFooData" (linesOf (threeLines 4).text)).isSome ∧
      (threeLines 4).text.toList.getLast? = some '\n' ∧
      (threeLines 4).text.toList.count '\n' < 4 ∧
      (runs [({} : Plan), {}] (Buffer.ofDocument (threeLines 4))).2.text? ≠
        some ((threeLines 4).text ++ Layout.block {} [⟨"id", "number"⟩] ++
          Layout.block {} [⟨"id", "number"⟩]) := by
  decide +kernel

end Accessors.Plan
