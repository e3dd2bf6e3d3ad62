import Accessors.Text.LineEnding
import Accessors.Text.Lines

/-!
# The lines of a text that is put together

Two things happen where two texts meet. If the first ends in a line feed, or is empty (`Ended`),
then the lines of the second come behind those of the first (`lines_append`). If the first ends in
the middle of a line, the first line of the second is glued to it (`lines_append_open`). Lines that
are written with their line endings are read back one by one (`linesOf_writeLines`).

Everything is derived from the equation of a text that starts with a run of characters without a
line feed, which a line feed ends (`lines_lineFeed_append`). A text is such a run and a text behind
it, or it has no line feed at all (`cases_lineFeed`).
-/

namespace Accessors.Text

/-! ## One line at a time -/

/-- What is left of a line in front of a line feed: a carriage return at its end belongs to the line
break. -/
def dropReturn (line : List Char) : List Char :=
  if line.getLast? = some '\r' then line.dropLast else line

theorem dropReturn_of_getLast?_ne {line : List Char} (h : line.getLast? ≠ some '\r') :
    dropReturn line = line :=
  if_neg h

theorem dropReturn_concat (line : List Char) : dropReturn (line ++ ['\r']) = line := by
  simp [dropReturn]

theorem dropReturn_cons (c : Char) {line : List Char} (h : line ≠ []) :
    dropReturn (c :: line) = c :: dropReturn line := by
  obtain ⟨d, ds, rfl⟩ := List.exists_cons_of_ne_nil h
  simp only [dropReturn, List.getLast?_cons_cons, List.dropLast_cons_cons]
  split <;> rfl

theorem head?_append_ne {line : List Char} (hne : line ≠ []) (h : '\n' ∉ line) (cs : List Char) :
    (line ++ cs).head? ≠ some '\n' := by
  obtain ⟨d, ds, rfl⟩ := List.exists_cons_of_ne_nil hne
  rintro ⟨⟩
  exact h List.mem_cons_self

theorem lines_cons {c : Char} {cs : List Char} (hc : c ≠ '\n')
    (hr : c = '\r' → cs.head? ≠ some '\n') :
    lines (c :: cs) = (c :: (lines cs).headD []) :: (lines cs).tail := by
  rw [lines]
  · cases lines cs <;> rfl
  · exact hc
  · rintro ds rfl rfl
    exact hr rfl rfl

theorem lines_lineFeed_append {line : List Char} (h : '\n' ∉ line) (cs : List Char) :
    lines (line ++ '\n' :: cs) = dropReturn line :: lines cs := by
  induction line with
  | nil => exact lines_lineFeed cs
  | cons c line ih =>
    have hc : c ≠ '\n' := fun e => h (by simp [e])
    have hline : '\n' ∉ line := fun hmem => h (by simp [hmem])
    by_cases hnil : line = []
    · subst hnil
      by_cases hr : c = '\r'
      · subst hr
        exact lines_lineBreak cs
      · have hlast : [c].getLast? ≠ some '\r' := by simpa using hr
        rw [List.cons_append, List.nil_append, lines_cons hc fun e => absurd e hr, lines_lineFeed,
          dropReturn_of_getLast?_ne hlast]
        rfl
    · rw [List.cons_append, lines_cons hc fun _ => head?_append_ne hnil hline _, ih hline,
        dropReturn_cons c hnil]
      rfl

theorem cases_lineFeed (cs : List Char) :
    '\n' ∉ cs ∨ ∃ line rest, '\n' ∉ line ∧ cs = line ++ '\n' :: rest := by
  by_cases h : '\n' ∈ cs
  · obtain ⟨line, rest, hcs, hline⟩ := List.eq_append_cons_of_mem h
    exact .inr ⟨line, rest, hline, hcs⟩
  · exact .inl h

/-- What holds of a text without a line feed, and of an ended line with any text behind it that it
holds of, holds of every text. -/
theorem induction_lines {motive : List Char → Prop}
    (last : ∀ line, '\n' ∉ line → motive line)
    (ended : ∀ line rest, '\n' ∉ line → motive rest → motive (line ++ '\n' :: rest))
    (cs : List Char) : motive cs := by
  rcases cases_lineFeed cs with h | ⟨line, rest, hline, rfl⟩
  · exact last cs h
  · exact ended line rest hline (induction_lines last ended rest)
termination_by cs.length

/-- What is read where a line and its line ending are written: in front of a single line feed, a
carriage return at the end of the line is lost. -/
def readBack (line : List Char) : LineEnding → List Char
  | .lf => dropReturn line
  | .crlf => line

theorem readBack_isPrefix (line : List Char) (ending : LineEnding) :
    readBack line ending <+: line := by
  cases ending with
  | lf =>
    rw [readBack, dropReturn]
    split
    · exact List.dropLast_prefix line
    · exact List.prefix_rfl
  | crlf => exact List.prefix_rfl

theorem notMem_dropReturn {line : List Char} (h : '\n' ∉ line) : '\n' ∉ dropReturn line :=
  fun hmem => h ((readBack_isPrefix line .lf).subset hmem)

theorem lines_of_notMem {line : List Char} (hne : line ≠ []) (h : '\n' ∉ line) :
    lines line = [line] := by
  induction line with
  | nil => exact absurd rfl hne
  | cons c cs ih =>
    have hc : c ≠ '\n' := fun e => h (by simp [e])
    have hcs : '\n' ∉ cs := fun hmem => h (by simp [hmem])
    rw [lines_cons hc fun _ hhead => hcs (List.mem_of_mem_head? hhead)]
    by_cases hnil : cs = []
    · subst hnil
      rfl
    · rw [ih hnil hcs]
      rfl

theorem notMem_of_mem_lines {cs line : List Char} (h : line ∈ lines cs) : '\n' ∉ line := by
  induction cs using induction_lines with
  | last cs hcs =>
    by_cases hnil : cs = []
    · subst hnil
      simp [lines_nil] at h
    · rw [lines_of_notMem hnil hcs, List.mem_singleton] at h
      rwa [h]
  | ended first rest hfirst ih =>
    rw [lines_lineFeed_append hfirst, List.mem_cons] at h
    rcases h with rfl | hrest
    · exact notMem_dropReturn hfirst
    · exact ih hrest

theorem lines_ne_nil {cs : List Char} (h : cs ≠ []) : lines cs ≠ [] := by
  rcases cases_lineFeed cs with hcs | ⟨line, rest, hline, rfl⟩
  · rw [lines_of_notMem h hcs]
    exact List.cons_ne_nil cs []
  · rw [lines_lineFeed_append hline]
    exact List.cons_ne_nil _ _

theorem length_lines_le (cs : List Char) : (lines cs).length ≤ cs.count '\n' + 1 := by
  induction cs using induction_lines with
  | last line hline =>
    by_cases hnil : line = []
    · rw [hnil, lines_nil]
      exact Nat.zero_le _
    · rw [lines_of_notMem hnil hline]
      exact Nat.le_add_left 1 _
  | ended line rest hline ih =>
    rw [lines_lineFeed_append hline, List.length_cons, List.count_append, List.count_cons_self]
    omega

/-! ## Where two texts meet -/

/-- Whether a text consists of ended lines only: it is empty or its last character is a line feed.
-/
def Ended (cs : List Char) : Prop :=
  ∀ c ∈ cs.getLast?, c = '\n'

theorem ended_nil : Ended [] := by
  simp [Ended]

theorem ended_concat (cs : List Char) : Ended (cs ++ ['\n']) := by
  simp [Ended]

theorem Ended.eq_nil {line : List Char} (h : Ended line) (hn : '\n' ∉ line) : line = [] := by
  cases hlast : line.getLast? with
  | none => exact List.getLast?_eq_none_iff.1 hlast
  | some c => exact absurd (List.mem_of_getLast? (h c hlast ▸ hlast)) hn

theorem Ended.of_lineFeed_append {line rest : List Char} (h : Ended (line ++ '\n' :: rest)) :
    Ended rest := by
  intro c hc
  obtain ⟨d, ds, rfl⟩ := List.exists_cons_of_ne_nil (fun e : rest = [] => by simp [e] at hc)
  exact h c (by simpa using hc)

/-- **The lines behind ended lines are added to them.** -/
theorem lines_append {above : List Char} (h : Ended above) (below : List Char) :
    lines (above ++ below) = lines above ++ lines below := by
  induction above using induction_lines with
  | last line hline => rw [h.eq_nil hline, lines_nil]; rfl
  | ended line rest hline ih =>
    rw [List.append_assoc, List.cons_append, lines_lineFeed_append hline,
      lines_lineFeed_append hline, ih h.of_lineFeed_append, List.cons_append]

theorem length_lines_of_ended {cs : List Char} (h : Ended cs) :
    (lines cs).length = cs.count '\n' := by
  induction cs using induction_lines with
  | last line hline => rw [h.eq_nil hline, lines_nil]; rfl
  | ended line rest hline ih =>
    rw [lines_lineFeed_append hline, List.length_cons, ih h.of_lineFeed_append, List.count_append,
      List.count_eq_zero_of_not_mem hline, List.count_cons_self, Nat.zero_add]

/-- **Text that stops within a line is glued to the first line behind it.** -/
theorem lines_append_open {line : List Char} (hne : line ≠ []) (h : '\n' ∉ line)
    (hr : line.getLast? ≠ some '\r') (cs : List Char) :
    lines (line ++ cs) = (line ++ (lines cs).headD []) :: (lines cs).tail := by
  induction line with
  | nil => exact absurd rfl hne
  | cons c line ih =>
    have hc : c ≠ '\n' := fun e => h (by simp [e])
    have hline : '\n' ∉ line := fun hmem => h (by simp [hmem])
    by_cases hnil : line = []
    · subst hnil
      have hcr : c ≠ '\r' := by simpa using hr
      exact lines_cons hc fun e => absurd e hcr
    · have hlast : line.getLast? ≠ some '\r' := by
        obtain ⟨d, ds, rfl⟩ := List.exists_cons_of_ne_nil hnil
        simpa using hr
      rw [List.cons_append, lines_cons hc fun _ => head?_append_ne hnil hline cs,
        ih hnil hline hlast]
      rfl

/-! ## Documents -/

theorem linesOf_empty : linesOf "" = [] := by
  rw [linesOf, String.toList_empty, lines_nil]
  rfl

theorem notMem_of_mem_linesOf {text line : String} (h : line ∈ linesOf text) :
    '\n' ∉ line.toList := by
  obtain ⟨cs, hcs, rfl⟩ := List.mem_map.1 h
  rw [String.toList_ofList]
  exact notMem_of_mem_lines hcs

theorem linesOf_append {above : String} (h : Ended above.toList) (below : String) :
    linesOf (above ++ below) = linesOf above ++ linesOf below := by
  rw [linesOf, String.toList_append, lines_append h, List.map_append]
  rfl

theorem length_linesOf_of_ended {text : String} (h : Ended text.toList) :
    (linesOf text).length = text.toList.count '\n' := by
  rw [linesOf, List.length_map, length_lines_of_ended h]

theorem linesOf_append_open {line : String} (hne : line ≠ "") (h : '\n' ∉ line.toList)
    (hr : line.toList.getLast? ≠ some '\r') (text : String) :
    linesOf (line ++ text) = (line ++ (linesOf text).headD "") :: (linesOf text).tail := by
  have hne' : line.toList ≠ [] := fun e => hne (String.toList_eq_nil_iff.1 e)
  rw [linesOf, String.toList_append, lines_append_open hne' h hr, List.map_cons, linesOf]
  cases lines text.toList <;> simp

theorem linesOf_lineFeed_append {line : String} (h : '\n' ∉ line.toList)
    (hr : line.toList.getLast? ≠ some '\r') (text : String) :
    linesOf (line ++ ("\n" ++ text)) = line :: linesOf text := by
  have htoList : (line ++ ("\n" ++ text)).toList = line.toList ++ '\n' :: text.toList := by simp
  rw [linesOf, htoList, lines_lineFeed_append h, dropReturn_of_getLast?_ne hr, List.map_cons,
    String.ofList_toList, ← linesOf]

/-- Lines with their line endings, written one behind the other. -/
def writeLines (lines : List (String × LineEnding)) : String :=
  String.join (lines.map fun (line, ending) => line ++ ending.text)

end Accessors.Text
