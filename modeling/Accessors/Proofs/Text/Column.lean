import Accessors.Proofs.Text.LineCut
import Accessors.Proofs.Text.Pieces
import Accessors.Text.Bytes
import Mathlib.Data.List.Basic

/-!
# Places in a line

The lines of a document are what is read from it, and a position is a line and a column in it. Line
`n` is the first line behind the cut at line `n` (`LineCut.getElem?_lines`), and a column cuts off
so many characters of what is `shown` there (`fst_cutColumn`). That is the line itself, unless the
document ends in a lone carriage return: this belongs to the last line, but no column is behind it
(`shown_cases`).

So the bytes in front of a position are those up to the start of its line and those of so many
characters of the line, except behind that carriage return (`slice?_line_iff`).
-/

namespace Accessors.Text

/-! ## What columns reach -/

/-- What columns reach of the first line of a text: up to its line feed, or up to the end of the
text, and without a carriage return in front of either. -/
def shown (cs : List Char) : List Char :=
  dropReturn (cs.takeWhile (· ≠ '\n'))

theorem shown_of_notMem {line : List Char} (h : '\n' ∉ line) : shown line = dropReturn line := by
  rw [shown, List.takeWhile_eq_self_iff.2 (decide_ne_of_notMem h)]

theorem shown_lineFeed_append {line : List Char} (h : '\n' ∉ line) (rest : List Char) :
    shown (line ++ '\n' :: rest) = dropReturn line := by
  rw [shown, takeWhile_append_cons h]

theorem shown_eq_nil {cs : List Char} (h : atLineEnd cs = true) : shown cs = [] := by
  rw [atLineEnd.eq_def] at h
  split at h
  · rfl
  · rfl
  · rfl
  · rfl
  · cases h

theorem shown_cons {c : Char} {cs : List Char} (h : atLineEnd (c :: cs) = false) :
    shown (c :: cs) = c :: shown cs := by
  have hc : c ≠ '\n' := by
    rintro rfl
    cases h
  rw [shown, List.takeWhile_cons_of_pos (by simpa using hc), shown]
  by_cases hnil : cs.takeWhile (· ≠ '\n') = []
  · -- the line is `c` alone, and as it does not end in front of `c`, this is no carriage return
    have hreturn : c ≠ '\r' := by
      rintro rfl
      cases cs with
      | nil => cases h
      | cons d ds =>
        obtain rfl : d = '\n' := by
          by_contra hd
          rw [List.takeWhile_cons_of_pos (by simpa using hd)] at hnil
          cases hnil
        cases h
    rw [hnil]
    exact dropReturn_of_getLast?_ne (by simpa using hreturn)
  · exact dropReturn_cons c hnil

theorem fst_cutColumn (n : Nat) (cs : List Char) : (cutColumn n cs).1 = (shown cs).take n := by
  fun_induction cutColumn n cs with
  | case1 => rw [List.take_zero]
  | case2 => rfl
  | case3 n c cs hend => rw [shown_eq_nil hend, List.take_nil]
  | case4 n c cs hend before after hcut ih =>
    rw [hcut] at ih
    rw [shown_cons (by simpa using hend), List.take_succ_cons, ← ih]

theorem shown_cases {cs line : List Char} (h : (lines cs).head? = some line) :
    (shown cs = line ∧ ¬ ((lines cs).length = 1 ∧ cs.getLast? = some '\r')) ∨
    (line = shown cs ++ ['\r'] ∧ (lines cs).length = 1 ∧ cs.getLast? = some '\r') := by
  rcases cases_lineFeed cs with hcs | ⟨front, rest, hfront, rfl⟩
  · have hne : cs ≠ [] := by
      rintro rfl
      rw [lines_nil] at h
      cases h
    rw [lines_of_notMem hne hcs] at h ⊢
    obtain rfl : cs = line := Option.some.inj h
    rw [shown_of_notMem hcs]
    rcases List.eq_nil_or_concat cs with hnil | ⟨front, c, hconcat⟩
    · exact absurd hnil hne
    · rw [List.concat_eq_append] at hconcat
      subst hconcat
      by_cases hc : c = '\r'
      · subst hc
        exact .inr ⟨by rw [dropReturn_concat], by simp⟩
      · have hlast : (front ++ [c]).getLast? ≠ some '\r' := by simpa using hc
        exact .inl ⟨dropReturn_of_getLast?_ne hlast, fun hand => hlast hand.2⟩
  · rw [lines_lineFeed_append hfront] at h ⊢
    obtain rfl : dropReturn front = line := Option.some.inj h
    refine .inl ⟨shown_lineFeed_append hfront rest, fun ⟨hlength, hlast⟩ => ?_⟩
    have hrest : rest = [] := by
      by_contra hne
      exact lines_ne_nil hne (List.eq_nil_of_length_eq_zero (by simpa using hlength))
    rw [hrest, List.getLast?_append] at hlast
    cases hlast

/-! ## Bytes -/

theorem byteLength_append (cs ds : List Char) :
    byteLength (cs ++ ds) = byteLength cs + byteLength ds := by
  induction cs with
  | nil => rw [List.nil_append, byteLength, Nat.zero_add]
  | cons c cs ih => rw [List.cons_append, byteLength, byteLength, ih, Nat.add_assoc]

theorem byteLength_replicate (n : Nat) (c : Char) :
    byteLength (List.replicate n c) = n * c.utf8Size := by
  induction n with
  | zero => rw [Nat.zero_mul]; rfl
  | succ n ih => rw [List.replicate_succ, byteLength, ih, Nat.succ_mul, Nat.add_comm]

theorem utf8ByteSize_ofList (cs : List Char) :
    (String.ofList cs).utf8ByteSize = byteLength cs := by
  induction cs with
  | nil => rfl
  | cons c cs ih =>
    rw [String.ofList_cons, String.utf8ByteSize_append, String.utf8ByteSize_singleton, ih,
      byteLength]

theorem slice?_append (before slice after : List Char) :
    slice? ⟨byteLength before, byteLength slice⟩ (before ++ (slice ++ after)) = some slice := by
  have hdrop : dropBytes? (byteLength before) (before ++ (slice ++ after)) =
      some (slice ++ after) := by
    rw [dropBytes?, cutBytes?_append]
    rfl
  rw [slice?, hdrop, Option.bind_eq_bind, Option.bind_some, cutBytes?_append]
  rfl

variable {above below : String} {position : Position}

theorem bytesBefore_eq (h : LineCut position.line.toNat above.toList below.toList) :
    bytesBefore (above ++ below) position =
      byteLength above.toList +
        byteLength ((shown below.toList).take position.character.toNat) := by
  simp only [bytesBefore, cut, cutAt, String.toList_append, cutLine_of_lineCut h,
    utf8ByteSize_ofList, byteLength_append, fst_cutColumn]

theorem bytesBefore_startOf (h : LineCut position.line.toNat above.toList below.toList) :
    bytesBefore (above ++ below) (.startOf position.line) = byteLength above.toList :=
  bytesBefore_eq h

theorem slice?_shown (above below : String) (position : Position) :
    slice? ⟨byteLength above.toList,
        byteLength ((shown below.toList).take position.character.toNat)⟩ (above ++ below).toList =
      some ((shown below.toList).take position.character.toNat) := by
  have hbelow := cutColumn_append position.character.toNat below.toList
  rw [fst_cutColumn] at hbelow
  have hslice := slice?_append above.toList
    ((shown below.toList).take position.character.toNat)
    (cutColumn position.character.toNat below.toList).2
  rwa [hbelow, ← String.toList_append] at hslice

/-! ## The characters of a line -/

/-- Whether a position is behind the carriage return that a document ends in: on the last line, in a
column at the end of this line or past it. -/
def IsBehindReturn (text : String) (position : Position) (line : String) : Prop :=
  position.line.toNat + 1 = (linesOf text).length ∧ text.toList.getLast? = some '\r' ∧
    line.length ≤ position.character.toNat

theorem getElem?_linesOf {n : Nat} (h : LineCut n above.toList below.toList)
    {line : String} (hline : (linesOf (above ++ below))[n]? = some line) :
    (lines below.toList).head? = some line.toList := by
  rw [linesOf, String.toList_append, List.getElem?_map, h.getElem?_lines] at hline
  obtain ⟨cs, hcs, rfl⟩ := Option.map_eq_some_iff.1 hline
  rw [hcs, String.toList_ofList]

theorem take_shown_eq_iff {cs : List Char} {n : Nat} {c : Char} :
    cs.take n = (cs ++ [c]).take n ↔ ¬ cs.length + 1 ≤ n := by
  constructor
  · intro h hn
    rw [List.take_of_length_le (by omega), List.take_of_length_le (by simpa using hn)] at h
    simp at h
  · intro hn
    rw [List.take_append_of_le_length (by omega)]

theorem last_line_iff {n : Nat} (h : LineCut n above.toList below.toList)
    (hne : below.toList ≠ []) :
    (n + 1 = (linesOf (above ++ below)).length ∧
        (above ++ below).toList.getLast? = some '\r') ↔
      (lines below.toList).length = 1 ∧ below.toList.getLast? = some '\r' := by
  have hcount : n ≤ (above.toList ++ below.toList).count '\n' := by
    by_contra hcount
    exact hne (h.eq_nil_of_count_lt (by omega))
  rw [linesOf, List.length_map, String.toList_append, (h.within hcount).length_lines,
    List.getLast?_append_of_ne_nil above.toList hne]
  constructor
  · rintro ⟨hlength, hlast⟩
    exact ⟨by omega, hlast⟩
  · rintro ⟨hlength, hlast⟩
    exact ⟨by omega, hlast⟩

/-- **Positions agree with lines.** The text from the start of a line of the document up to a column
of this line is the first characters of the line, so many of them or all if it has fewer, exactly
if the position is not behind a carriage return at the end of the document; there this carriage
return is missing. A position on a line that the document does not have is at its end. -/
theorem slice?_line_iff (text : String) (position : Position) :
    let start := bytesBefore text (.startOf position.line)
    let span : Span := ⟨start, bytesBefore text position - start⟩
    (∀ line, (linesOf text)[position.line.toNat]? = some line →
      start ≤ bytesBefore text position ∧
      (slice? span text.toList = some (line.toList.take position.character.toNat) ↔
        ¬ IsBehindReturn text position line) ∧
      (IsBehindReturn text position line → slice? span text.toList = some line.toList.dropLast)) ∧
    ((linesOf text).length ≤ position.line.toNat →
      bytesBefore text position = text.utf8ByteSize) := by
  obtain ⟨above, below, rfl, hcut⟩ := exists_lineCut position.line.toNat text
  refine ⟨fun line hline => ?_, fun hlength => ?_⟩
  · have hhead := getElem?_linesOf hcut hline
    have hne : below.toList ≠ [] := by
      intro hnil
      rw [hnil, lines_nil] at hhead
      cases hhead
    have hlast := last_line_iff hcut hne
    rw [bytesBefore_startOf hcut, bytesBefore_eq hcut, Nat.add_sub_cancel_left,
      slice?_shown above below position, Option.some.injEq, Option.some.injEq]
    refine ⟨Nat.le_add_right _ _, ?_⟩
    rcases shown_cases hhead with ⟨hshown, hnot⟩ | ⟨hreturn, hend⟩
    · have hnot' : ¬ IsBehindReturn (above ++ below) position line :=
        fun hbehind => hnot (hlast.1 ⟨hbehind.1, hbehind.2.1⟩)
      rw [hshown]
      exact ⟨iff_of_true rfl hnot', fun hbehind => absurd hbehind hnot'⟩
    · have hlength : line.length = (shown below.toList).length + 1 := by
        rw [← String.length_toList, hreturn, List.length_append, List.length_singleton]
      have hbehind : IsBehindReturn (above ++ below) position line ↔
          (shown below.toList).length + 1 ≤ position.character.toNat := by
        rw [IsBehindReturn, ← and_assoc, and_iff_right (hlast.2 hend), hlength]
      rw [hbehind, hreturn, take_shown_eq_iff, List.dropLast_concat]
      exact ⟨Iff.rfl, fun hle => List.take_of_length_le (by omega)⟩
  · have hbelow : below.toList = [] := by
      rw [linesOf, List.length_map, String.toList_append] at hlength
      exact hcut.eq_nil_of_length_le hlength
    have habove : above.utf8ByteSize = byteLength above.toList := by
      rw [← utf8ByteSize_ofList, String.ofList_toList]
    rw [bytesBefore_eq hcut, hbelow, shown_eq_nil rfl, List.take_nil, byteLength, Nat.add_zero,
      String.toList_eq_nil_iff.1 hbelow, String.append_empty, habove]

theorem slice?_line_iff_wide :
    let text := "é\r\nb"
    let position : Position := ⟨0, 9⟩
    let start := bytesBefore text (.startOf position.line)
    let span : Span := ⟨start, bytesBefore text position - start⟩
    (linesOf text)[position.line.toNat]? = some "é" ∧ ¬ IsBehindReturn text position "é" ∧
      slice? span text.toList = some ("é".toList.take position.character.toNat) := by
  have hline : (linesOf "é\r\nb")[(0 : UInt32).toNat]? = some "é" := by rfl
  have hlast : ¬ IsBehindReturn "é\r\nb" ⟨0, 9⟩ "é" := by
    rintro ⟨hlength, -⟩
    exact absurd hlength (by decide)
  exact ⟨hline, hlast, (((slice?_line_iff "é\r\nb" ⟨0, 9⟩).1 "é" hline).2.1).2 hlast⟩

/-- A carriage return that nothing follows belongs to its line, but no column is behind it. -/
theorem slice?_line_lone_return :
    let text := "a\r"
    let position : Position := ⟨0, 2⟩
    let start := bytesBefore text (.startOf position.line)
    let span : Span := ⟨start, bytesBefore text position - start⟩
    (linesOf text)[position.line.toNat]? = some "a\r" ∧
      slice? span text.toList = some ['a'] ∧
      slice? span text.toList ≠ some ("a\r".toList.take position.character.toNat) := by
  refine ⟨by rfl, by rfl, ?_⟩
  decide

end Accessors.Text
