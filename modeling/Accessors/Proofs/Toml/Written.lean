import Accessors.Proofs.Toml.Literal

/-!
# Texts of statements

`Written` says how statements are written, one on a line: headers and keys without quotes and
without dots, values as `Spells` has them, spaces wherever the grammar lets them stand, comments,
and lines without a statement in any number. What is written so is read as these statements
(`readAll?_of_written`), and statements of this kind can be written (`exists_written`).
-/

namespace Accessors.Toml

/-- Whether a text is spaces and tabs. -/
def IsGap (cs : List Char) : Prop :=
  ∀ c ∈ cs, Word.isSpace c = true

instance (cs : List Char) : Decidable (IsGap cs) :=
  List.decidableBAll _ cs

/-- Whether a text is a name that needs no quotes. -/
def IsBareName (name : String) : Prop :=
  name ≠ "" ∧ ∀ c ∈ name.toList, Statement.isKeyChar c = true

instance (name : String) : Decidable (IsBareName name) :=
  @instDecidableAnd _ _ _ (List.decidableBAll _ name.toList)

/-- Whether a text ends a line in front of another text: behind spaces there may be a comment, and
there is a line break, which the last line may go without. -/
def EndsLine (cs rest : List Char) : Prop :=
  ∃ gap comment lineBreak, IsGap gap ∧
    (comment = [] ∨ ∃ body, comment = '#' :: body ∧ ∀ c ∈ body, Quoted.isPlain c = true) ∧
    (lineBreak = ['\n'] ∨ lineBreak = ['\r', '\n'] ∨ (lineBreak = [] ∧ rest = [])) ∧
    cs = gap ++ comment ++ lineBreak

/-- The ways to write a statement. -/
inductive Puts : List Char → Statement → Prop
  | header {name : String} {before behind : List Char} (hname : IsBareName name)
      (hbefore : IsGap before) (hbehind : IsGap behind) :
      Puts ('[' :: (before ++ name.toList ++ behind ++ [']'])) (.header ⟨[], name⟩)
  | assign {name : String} {before behind cs : List Char} {value : Value} (hname : IsBareName name)
      (hbefore : IsGap before) (hbehind : IsGap behind) (hvalue : Spells cs value) :
      Puts (name.toList ++ before ++ '=' :: (behind ++ cs)) (.assign ⟨[], name⟩ value)

/-- The ways to write statements, each on a line of its own. -/
inductive Written : List Char → List Statement → Prop
  | nil : Written [] []
  | blank {ending rest : List Char} {statements : List Statement} (hending : EndsLine ending rest)
      (hrest : Written rest statements) : Written (ending ++ rest) statements
  | line {gap cs ending rest : List Char} {statement : Statement} {statements : List Statement}
      (hgap : IsGap gap) (hputs : Puts cs statement) (hending : EndsLine ending rest)
      (hrest : Written rest statements) :
      Written (gap ++ cs ++ ending ++ rest) (statement :: statements)

/-! ## The ends of lines -/

section Line

variable {gap ending rest : List Char}

theorem skipSpace_append (hgap : IsGap gap) (rest : List Char) :
    Statement.skipSpace (gap ++ rest) = Statement.skipSpace rest :=
  List.dropWhile_append_of_pos hgap

theorem skipFiller_gap (hgap : IsGap gap) (rest : List Char) :
    Statement.skipFiller false (gap ++ rest) = Statement.skipFiller false rest := by
  induction gap with
  | nil => rfl
  | cons c gap ih =>
    obtain ⟨hspace, hgap⟩ := List.forall_mem_cons.1 hgap
    have hc : c = ' ' ∨ c = '\t' := by simpa [Word.isSpace] using hspace
    rw [← ih hgap]
    rcases hc with rfl | rfl <;> rfl

theorem skipFiller_comment {body : List Char} (hbody : ∀ c ∈ body, Quoted.isPlain c = true)
    (rest : List Char) :
    Statement.skipFiller true (body ++ rest) = Statement.skipFiller true rest := by
  induction body with
  | nil => rfl
  | cons c body ih =>
    obtain ⟨hplain, hbody⟩ := List.forall_mem_cons.1 hbody
    rw [List.cons_append, Statement.skipFiller, if_pos rfl, if_pos hplain, ih hbody]
    · rintro rfl
      cases hplain
    · rintro _ rfl
      cases hplain

theorem skipFiller_lineBreak {lineBreak : List Char}
    (hbreak : lineBreak = ['\n'] ∨ lineBreak = ['\r', '\n'] ∨ (lineBreak = [] ∧ rest = []))
    (inComment : Bool) :
    Statement.skipFiller inComment (lineBreak ++ rest) = Statement.skipFiller false rest := by
  rcases hbreak with rfl | rfl | ⟨rfl, rfl⟩ <;> rfl

theorem EndsLine.skipFiller_eq (h : EndsLine ending rest) :
    Statement.skipFiller false (ending ++ rest) = Statement.skipFiller false rest := by
  obtain ⟨gap, comment, lineBreak, hgap, hcomment, hbreak, rfl⟩ := h
  rw [List.append_assoc, List.append_assoc, skipFiller_gap hgap]
  rcases hcomment with rfl | ⟨body, rfl, hbody⟩
  · exact skipFiller_lineBreak hbreak false
  · have hopen : ∀ cs, Statement.skipFiller false ('#' :: cs) = Statement.skipFiller true cs :=
      fun _ => rfl
    rw [List.cons_append, hopen, skipFiller_comment hbody]
    exact skipFiller_lineBreak hbreak true

theorem EndsLine.lineEnd?_eq (h : EndsLine ending rest) :
    Statement.lineEnd? (ending ++ rest) = some rest := by
  obtain ⟨gap, comment, lineBreak, hgap, hcomment, hbreak, rfl⟩ := h
  have hclose : Statement.lineBreak? (lineBreak ++ rest) = some rest := by
    rcases hbreak with rfl | rfl | ⟨rfl, rfl⟩ <;> rfl
  rw [List.append_assoc, List.append_assoc, Statement.lineEnd?, skipSpace_append hgap]
  rcases hcomment with rfl | ⟨body, rfl, hbody⟩
  · rcases hbreak with rfl | rfl | ⟨rfl, rfl⟩ <;> rfl
  · have hdrop : (body ++ (lineBreak ++ rest)).dropWhile Quoted.isPlain = lineBreak ++ rest := by
      rw [List.dropWhile_append_of_pos hbody]
      rcases hbreak with rfl | rfl | ⟨rfl, rfl⟩ <;> rfl
    have hopen : Statement.skipSpace ('#' :: body ++ (lineBreak ++ rest)) =
        '#' :: (body ++ (lineBreak ++ rest)) := rfl
    rw [hopen]
    simp only [hdrop, hclose]

theorem EndsLine.atLineEnd (h : EndsLine ending rest) : AtLineEnd (ending ++ rest) := by
  obtain ⟨gap, comment, lineBreak, hgap, hcomment, hbreak, rfl⟩ := h
  rw [AtLineEnd, List.append_assoc, List.append_assoc, skipSpace_append hgap]
  rcases hcomment with rfl | ⟨body, rfl, -⟩
  · rcases hbreak with rfl | rfl | ⟨rfl, rfl⟩
    · rintro c ⟨⟩
      exact .inr (.inl rfl)
    · rintro c ⟨⟩
      exact .inr (.inr rfl)
    · rintro c ⟨⟩
  · rintro c ⟨⟩
    exact .inl rfl

end Line

/-! ## Keys and statements -/

theorem isWordChar_of_isKeyChar {c : Char} (h : Statement.isKeyChar c = true) : IsWordChar c := by
  simp only [Statement.isKeyChar, Bool.or_eq_true, beq_iff_eq] at h
  rcases h with (h | h) | h
  · exact .inr (.inr (.inr h))
  · exact .inl h
  · exact .inr (.inr (.inl h))

theorem IsBareName.exists_cons {name : String} (h : IsBareName name) :
    ∃ c cs, name.toList = c :: cs ∧ IsWordChar c := by
  obtain ⟨hne, hkey⟩ := h
  have hlist : name.toList ≠ [] := by simpa using hne
  obtain ⟨c, cs, hcs⟩ := List.exists_cons_of_ne_nil hlist
  exact ⟨c, cs, hcs, isWordChar_of_isKeyChar (hkey c (by simp [hcs]))⟩

theorem IsBareName.skipSpace_append {name : String} (h : IsBareName name) (rest : List Char) :
    Statement.skipSpace (name.toList ++ rest) = name.toList ++ rest := by
  obtain ⟨c, cs, hcs, hword⟩ := h.exists_cons
  rw [hcs, List.cons_append]
  exact List.dropWhile_cons_of_neg (by simp [hword.isSpace_eq])

theorem exists_stop {gap : List Char} {mark : Char} (hgap : IsGap gap)
    (hmark : mark = ']' ∨ mark = '=') (more : List Char) :
    ∃ c cs, gap ++ mark :: more = c :: cs ∧ ¬ Statement.isKeyChar c = true := by
  cases gap with
  | nil =>
    refine ⟨mark, more, rfl, ?_⟩
    rcases hmark with rfl | rfl <;> decide
  | cons c gap =>
    refine ⟨c, gap ++ mark :: more, rfl, fun hkey => ?_⟩
    have hspace := hgap c (by simp)
    rw [(isWordChar_of_isKeyChar hkey).isSpace_eq] at hspace
    cases hspace

theorem keyPart?_append {name : String} {gap : List Char} {mark : Char} (hname : IsBareName name)
    (hgap : IsGap gap) (hmark : mark = ']' ∨ mark = '=') (more : List Char) :
    Statement.keyPart? (name.toList ++ (gap ++ mark :: more)) =
      some (name, gap ++ mark :: more) := by
  obtain ⟨c, cs, hcs, hstop⟩ := exists_stop hgap hmark more
  have htake : (name.toList ++ (gap ++ mark :: more)).takeWhile Statement.isKeyChar =
      name.toList := by
    rw [List.takeWhile_append_of_pos hname.2, hcs, List.takeWhile_cons_of_neg hstop,
      List.append_nil]
  have hdrop : (name.toList ++ (gap ++ mark :: more)).dropWhile Statement.isKeyChar =
      gap ++ mark :: more := by
    rw [List.dropWhile_append_of_pos hname.2, hcs, List.dropWhile_cons_of_neg hstop]
  rw [Statement.keyPart?, htake, hdrop]
  split
  · rename_i hnil
    exact absurd (by simpa using hnil) hname.1
  · rw [String.ofList_toList]

theorem key?_append {name : String} {gap : List Char} {mark : Char} (hname : IsBareName name)
    (hgap : IsGap gap) (hmark : mark = ']' ∨ mark = '=') (more : List Char) :
    Statement.key? (name.toList ++ (gap ++ mark :: more)) =
      some (⟨[], name⟩, gap ++ mark :: more) := by
  have hskip : Statement.skipSpace (gap ++ mark :: more) = mark :: more := by
    rw [skipSpace_append hgap]
    rcases hmark with rfl | rfl <;> rfl
  rw [Statement.key?, Statement.keyParts?, keyPart?_append hname hgap hmark]
  simp only [hskip]
  rcases hmark with rfl | rfl <;> rfl

theorem headerKey?_append {name : String} {before behind : List Char} (hname : IsBareName name)
    (hbefore : IsGap before) (hbehind : IsGap behind) (rest : List Char) :
    Statement.headerKey? (before ++ (name.toList ++ (behind ++ ']' :: rest))) =
      some (⟨[], name⟩, ']' :: rest) := by
  have hclose : Statement.skipSpace (behind ++ ']' :: rest) = ']' :: rest := by
    rw [skipSpace_append hbehind]
    rfl
  rw [Statement.headerKey?, skipSpace_append hbefore, hname.skipSpace_append,
    key?_append hname hbehind (.inl rfl), Option.map_some]
  simp only [hclose]

theorem pair?_append {name : String} {before behind cs rest : List Char} {value : Value}
    (hname : IsBareName name) (hbefore : IsGap before) (hbehind : IsGap behind)
    (hvalue : Spells cs value) (hrest : AtLineEnd rest) :
    Statement.pair? Statement.skipSpace (Statement.value? Statement.maxDepth)
      (name.toList ++ (before ++ '=' :: (behind ++ (cs ++ rest)))) =
        some ((⟨[], name⟩, value), rest) := by
  have hequals : Statement.skipSpace (before ++ '=' :: (behind ++ (cs ++ rest))) =
      '=' :: (behind ++ (cs ++ rest)) := by
    rw [skipSpace_append hbefore]
    rfl
  have hstart : Statement.skipSpace (cs ++ rest) = cs ++ rest := by
    obtain ⟨c, more, hcs, hspace⟩ := hvalue.exists_cons
    rw [hcs]
    exact List.dropWhile_cons_of_neg (by simp [hspace])
  rw [Statement.pair?, key?_append hname hbefore (.inr rfl)]
  simp only [Option.bind_eq_bind, Option.bind_some, hequals, skipSpace_append hbehind, hstart,
    value?_of_spells hvalue hrest, Option.pure_def]

theorem IsBareName.append_ne {name : String} (h : IsBareName name) (rest more : List Char) :
    name.toList ++ rest ≠ '[' :: more := by
  obtain ⟨c, cs, hcs, hword⟩ := h.exists_cons
  rw [hcs]
  intro heq
  exact hword.ne_of_mem (d := '[') (by decide) (List.cons.inj heq).1

theorem Puts.read?_eq {cs ending rest : List Char} {statement : Statement}
    (h : Puts cs statement) (hending : EndsLine ending rest) :
    Statement.read? (cs ++ (ending ++ rest)) = some (statement, rest) := by
  cases h with
  | @header name before behind hname hbefore hbehind =>
    have htext : '[' :: (before ++ name.toList ++ behind ++ [']']) ++ (ending ++ rest) =
        '[' :: (before ++ (name.toList ++ (behind ++ ']' :: (ending ++ rest)))) := by
      simp
    rw [htext, Statement.read?]
    · rw [headerKey?_append hname hbefore hbehind]
      simp only [Option.bind_eq_bind, Option.bind_some, hending.lineEnd?_eq]
      rfl
    · -- what stands behind the bracket is a space or the name
      intro more hmore
      cases before with
      | nil => exact hname.append_ne _ _ hmore
      | cons c before =>
        have hspace := hbefore c (by simp)
        rw [(List.cons.inj hmore).1] at hspace
        cases hspace
  | @assign name before behind cs value hname hbefore hbehind hvalue =>
    have htext : name.toList ++ before ++ '=' :: (behind ++ cs) ++ (ending ++ rest) =
        name.toList ++ (before ++ '=' :: (behind ++ (cs ++ (ending ++ rest)))) := by
      simp
    rw [htext, Statement.read?]
    · rw [pair?_append hname hbefore hbehind hvalue hending.atLineEnd]
      simp only [Option.bind_eq_bind, Option.bind_some, hending.lineEnd?_eq]
      rfl
    · exact fun more => hname.append_ne _ _
    · exact fun more => hname.append_ne _ _

/-! ## All statements -/

theorem skipFiller_cons {c : Char} (h : c = '[' ∨ IsWordChar c) (rest : List Char) :
    Statement.skipFiller false (c :: rest) = c :: rest := by
  have hne : ∀ d ∈ ['\n', '\r', '#', ' ', '\t'], c ≠ d := by
    intro d hd
    rcases h with rfl | hword
    · rintro rfl
      revert hd
      decide
    · refine hword.ne_of_mem ?_
      simp only [List.mem_cons, List.not_mem_nil, or_false] at hd
      rcases hd with rfl | rfl | rfl | rfl | rfl <;> decide
  have hspace : Word.isSpace c = false := by
    simp [Word.isSpace, hne ' ' (by decide), hne '\t' (by decide)]
  rw [Statement.skipFiller, if_neg (by decide), if_neg (hne '#' (by decide)),
    if_neg (by simp [hspace])]
  · exact hne '\n' (by decide)
  · intro more hc
    exact absurd hc (hne '\r' (by decide))

theorem Puts.exists_cons {cs : List Char} {statement : Statement} (h : Puts cs statement) :
    ∃ c more, cs = c :: more ∧ (c = '[' ∨ IsWordChar c) := by
  cases h with
  | header => exact ⟨_, _, rfl, .inl rfl⟩
  | assign hname =>
    obtain ⟨c, more, hcs, hword⟩ := hname.exists_cons
    exact ⟨c, _, by rw [hcs]; rfl, .inr hword⟩

theorem readFrom?_cons {cs rest : List Char} {statement : Statement} {statements : List Statement}
    (hne : Statement.skipFiller false cs ≠ [])
    (hfirst : Statement.read? (Statement.skipFiller false cs) = some (statement, rest))
    (hlength : rest.length < cs.length) (hrest : Statement.readFrom? rest = some statements) :
    Statement.readFrom? cs = some (statement :: statements) := by
  rw [Statement.readFrom?]
  split
  · rename_i hnil
    exact absurd hnil hne
  · rw [hfirst]
    simp [hlength, hrest]

theorem readFrom?_append {front cs : List Char} {statements : List Statement}
    (hskip : Statement.skipFiller false (front ++ cs) = Statement.skipFiller false cs)
    (hread : Statement.readFrom? cs = some statements) :
    Statement.readFrom? (front ++ cs) = some statements := by
  rw [Statement.readFrom?] at hread
  split at hread
  · rename_i hnil
    rw [Statement.readFrom?, hskip, hnil]
    exact hread
  · rename_i hne
    split at hread
    · cases hread
    · rename_i statement rest hfirst
      split at hread
      · rename_i hlength
        obtain ⟨more, hrest, rfl⟩ := Option.map_eq_some_iff.1 hread
        refine readFrom?_cons (by rwa [hskip]) (by rw [hskip, hfirst]) ?_ hrest
        rw [List.length_append]
        omega
      · cases hread

/-- **What is written as statements is read as these statements.** -/
theorem readFrom?_of_written {cs : List Char} {statements : List Statement}
    (h : Written cs statements) : Statement.readFrom? cs = some statements := by
  induction h with
  | nil => simp [Statement.readFrom?, Statement.skipFiller]
  | blank hending _ ih => exact readFrom?_append hending.skipFiller_eq ih
  | @line gap cs ending rest statement statements hgap hputs hending _ ih =>
    obtain ⟨c, more, hcs, hstart⟩ := hputs.exists_cons
    have hskip : Statement.skipFiller false (gap ++ cs ++ ending ++ rest) =
        cs ++ (ending ++ rest) := by
      rw [List.append_assoc, List.append_assoc, skipFiller_gap hgap, hcs, List.cons_append,
        skipFiller_cons hstart]
    refine readFrom?_cons ?_ ?_ ?_ ih
    · rw [hskip, hcs]
      exact List.cons_ne_nil c _
    · rw [hskip, hputs.read?_eq hending]
    · simp only [hcs, List.length_append, List.length_cons]
      omega

theorem readAll?_of_written {text : String} {statements : List Statement}
    (h : Written text.toList statements) : Statement.readAll? text = some statements := by
  have hread := readFrom?_of_written h
  rw [Statement.readAll?]
  split
  · -- no statement starts with a byte order mark
    rename_i cs hmark
    have hkey : Statement.key? ('\uFEFF' :: cs) = none := by
      rw [Statement.key?, Statement.keyParts?]
      rfl
    have hnone : Statement.readFrom? ('\uFEFF' :: cs) = none := by
      rw [Statement.readFrom?]
      have hskip : Statement.skipFiller false ('\uFEFF' :: cs) = '\uFEFF' :: cs := rfl
      simp [hskip, Statement.read?, Statement.pair?, hkey]
    rw [hmark, hnone] at hread
    cases hread
  · exact hread

/-! ## Writing statements -/

theorem isGap_nil : IsGap [] := by
  decide

theorem endsLine_lineFeed (rest : List Char) : EndsLine ['\n'] rest :=
  ⟨[], [], ['\n'], isGap_nil, .inl rfl, .inl rfl, rfl⟩

theorem exists_written {statements : List Statement}
    (h : ∀ statement ∈ statements, ∃ cs, Puts cs statement) : ∃ cs, Written cs statements := by
  induction statements with
  | nil => exact ⟨[], .nil⟩
  | cons statement statements ih =>
    obtain ⟨⟨cs, hputs⟩, hstatements⟩ := List.forall_mem_cons.1 h
    obtain ⟨rest, hrest⟩ := ih hstatements
    exact ⟨_, .line isGap_nil hputs (endsLine_lineFeed rest) hrest⟩

end Accessors.Toml
