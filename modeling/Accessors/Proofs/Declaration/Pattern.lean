import Accessors.Proofs.Declaration.Header
import Accessors.Proofs.Regex.Reading

/-!
# The pattern of a header

`Header.pattern` is the text of a regular expression, and `Header.find?` is a search that was
written by hand. They are the same: whatever the name has in it, the pattern is read as the keyword
and the name, type parameters that may be missing and a white space character (`read?_pattern`), and
of every line this expression matches what the search finds (`find?_header`).

`Header.Cut` is the grammar of a line with a header. The search finds the first of these cuts
(`Cut.find?_eq_some_iff`).
-/

namespace Accessors.Declaration.Header

open Regex (runs)

/-! ## The expression -/

namespace Expression

/-- A list of type parameters. -/
def parameters : Regex :=
  .seq (.seq (.seq .empty (.char '<')) (.many isParameterChar)) (.char '>')

/-- What follows the name. -/
def ending : Regex :=
  .seq (.optional parameters) (.one Unicode.isBlank)

/-- A header with the keyword and the name in `opening`. -/
def header (opening : List Char) : Regex :=
  .seq (.seq (Regex.text .empty opening) (.optional parameters)) (.one Unicode.isBlank)

end Expression

theorem toList_pattern (interface : String) :
    (pattern interface).toList = escape (opening interface) ++ "(<[\\w\\s]+>)?\\s".toList := by
  have hkeyword : escape keyword.toList = keyword.toList := by decide
  have hopening : escape (opening interface) = keyword.toList ++ escape interface.toList := by
    rw [opening, String.toList_append, escape, List.flatMap_append]
    exact congrArg (· ++ escape interface.toList) hkeyword
  rw [hopening, pattern, String.toList_append, String.toList_append, String.toList_ofList]

theorem symbols?_tail :
    Regex.symbols? "(<[\\w\\s]+>)?\\s".toList = some
      [.plain '(', .plain '<', .plain '[', .escaped 'w', .escaped 's', .plain ']', .plain '+',
        .plain '>', .plain ')', .plain '?', .escaped 's'] :=
  rfl

/-- **The pattern** is read as the expression of a header, whatever the name has in it. -/
theorem read?_pattern (interface : String) :
    Regex.read? (pattern interface) = some (Expression.header (opening interface)) := by
  have hset : isParameterChar = fun c => [Unicode.isWord, Unicode.isBlank].any (· c) := by
    funext c
    simp [isParameterChar]
  rw [Regex.read?_escape (toList_pattern interface), symbols?_tail, Expression.header,
    Expression.parameters, hset]
  have hclose : (Regex.Group.addText {} (opening interface)).close =
      Regex.text .empty (opening interface) :=
    Regex.Group.close_addText {} (opening interface)
  rw [← hclose]
  rfl

/-! ## The matches of the expression -/

theorem runs_parameters (cs : List Char) :
    Expression.parameters.runs cs = (typeParameters? cs).toList := by
  rw [Expression.parameters, Regex.runs_seq_assoc, Regex.runs_seq_assoc, Regex.runs_empty_seq]
  cases h : typeParameters? cs with
  | some found =>
    obtain ⟨parameters, rest⟩ := found
    obtain ⟨inner, hne, hinner, rfl⟩ := exists_inner_of_typeParameters? h
    have hcs : cs = '<' :: (inner ++ '>' :: rest) := by simpa using (typeParameters?_append h).symm
    have hinside := Regex.runs_many_char isParameterChar_close hne hinner rest
    rw [hcs, runs, Regex.runs_char]
    simp [List.isPrefixOf?, hinside]
  | none =>
    refine List.eq_nil_iff_forall_not_mem.2 fun found hmem => ?_
    rw [runs, List.mem_flatMap] at hmem
    obtain ⟨⟨first, inside⟩, hfirst, hrest⟩ := hmem
    rw [Regex.runs_char, Option.mem_toList, Option.map_eq_some_iff] at hfirst
    obtain ⟨ds, hprefix, heq⟩ := hfirst
    obtain ⟨rfl, rfl⟩ := Prod.mk.inj heq
    obtain ⟨next, hnext, -⟩ := List.mem_map.1 hrest
    obtain ⟨inner, hne, hinner, rfl⟩ := Regex.exists_of_mem_runs_many_char hnext
    have hcs : ['<'] ++ (inner ++ '>' :: next.2) = cs :=
      List.isPrefixOf?_eq_some_iff_append_eq.1 hprefix
    have hsome := typeParameters?_list hne hinner next.2
    rw [← hcs] at h
    exact absurd (hsome.symm.trans h) (by simp)

theorem runs_blank (cs : List Char) :
    (Regex.one Unicode.isBlank).runs cs =
      ((blank? cs).map fun (c, rest) => ([c], rest)).toList := by
  cases cs with
  | nil => rfl
  | cons c cs =>
    rw [runs, blank?]
    split <;> rfl

/-- Type parameters do not start with a white space character. Where they are in the way of one,
leaving them out does not help. -/
theorem atStart?_ending (cs : List Char) : Expression.ending.atStart? cs = ending? cs := by
  rw [Expression.ending, Regex.atStart?, runs, runs, runs_parameters, ending?]
  simp only [runs_blank]
  cases h : typeParameters? cs with
  | none => cases hb : blank? cs <;> simp [hb]
  | some found =>
    obtain ⟨parameters, rest⟩ := found
    obtain ⟨inner, -, -, rfl⟩ := exists_inner_of_typeParameters? h
    have hcs : cs = '<' :: (inner ++ '>' :: rest) := by simpa using (typeParameters?_append h).symm
    have hnone : blank? cs = none := by
      rw [hcs, blank?, isBlank_open]
      rfl
    cases hb : blank? rest <;> simp [hb, hnone]

theorem atStart?_header (opening cs : List Char) :
    (Expression.header opening).atStart? cs = atStart? opening cs := by
  have hruns : (Expression.header opening).runs cs =
      (Regex.seq (Regex.text .empty opening) Expression.ending).runs cs :=
    Regex.runs_seq_assoc _ _ _ cs
  rw [Regex.atStart?, hruns, runs, Regex.runs_text, runs, List.flatMap_singleton, atStart?]
  dsimp only
  cases opening.isPrefixOf? cs with
  | none => rfl
  | some rest =>
    have hending := congrArg (Option.map (opening ++ ·)) (atStart?_ending rest)
    rw [Regex.atStart?, Option.map_map] at hending
    simpa [Function.comp_def] using hending

theorem findIn?_header (opening cs : List Char) :
    (Expression.header opening).findIn? cs = findIn? opening cs := by
  induction cs with
  | nil => rw [Regex.findIn?, findIn?, atStart?_header]
  | cons c cs ih =>
    have hstart := atStart?_header opening (c :: cs)
    cases h : atStart? opening (c :: cs) with
    | some found =>
      rw [h] at hstart
      simp only [Regex.findIn?, findIn?, hstart, h]
    | none =>
      rw [h] at hstart
      simp only [Regex.findIn?, findIn?, hstart, h]
      exact congrArg (Option.map fun found => (c :: found.1, found.2)) ih

/-- **The search** finds in every line what the expression matches. -/
theorem find?_header (interface line : String) :
    (Expression.header (opening interface)).find? line = find? interface line := by
  rw [Regex.find?, find?, findIn?_header]

/-! ## The first header of a line -/

theorem exists_of_findIn? {opening cs before header : List Char}
    (h : findIn? opening cs = some (before, header)) :
    (∃ rest, cs = before ++ rest ∧ atStart? opening rest = some header) ∧
      ∀ front back, cs = front ++ back → (atStart? opening back).isSome →
        before.length ≤ front.length := by
  induction cs generalizing before with
  | nil =>
    obtain ⟨found, hfound, heq⟩ := Option.map_eq_some_iff.1 h
    obtain ⟨rfl, rfl⟩ := Prod.mk.inj heq
    exact ⟨⟨[], rfl, hfound⟩, fun front _ _ _ => Nat.zero_le front.length⟩
  | cons c cs ih =>
    rw [findIn?] at h
    cases hstart : atStart? opening (c :: cs) with
    | some found =>
      rw [hstart] at h
      obtain ⟨rfl, rfl⟩ := Prod.mk.inj (Option.some.inj h)
      exact ⟨⟨c :: cs, rfl, hstart⟩, fun front _ _ _ => Nat.zero_le front.length⟩
    | none =>
      rw [hstart] at h
      obtain ⟨⟨before', found⟩, hfound, heq⟩ := Option.map_eq_some_iff.1 h
      obtain ⟨rfl, rfl⟩ := Prod.mk.inj heq
      obtain ⟨⟨rest, rfl, hrest⟩, hfirst⟩ := ih hfound
      refine ⟨⟨rest, rfl, hrest⟩, fun front back hcut hback => ?_⟩
      cases front with
      | nil =>
        rw [List.nil_append] at hcut
        rw [← hcut, hstart] at hback
        cases hback
      | cons d front =>
        exact Nat.succ_le_succ (hfirst front back (List.cons.inj hcut).2 hback)

theorem findIn?_eq_some_iff {opening cs before header : List Char} :
    findIn? opening cs = some (before, header) ↔
      (∃ rest, cs = before ++ rest ∧ atStart? opening rest = some header) ∧
        ∀ front back, cs = front ++ back → (atStart? opening back).isSome →
          before.length ≤ front.length := by
  refine ⟨exists_of_findIn?, ?_⟩
  rintro ⟨⟨rest, rfl, hrest⟩, hfirst⟩
  have hsome : (atStart? opening rest).isSome := Option.isSome_of_eq_some hrest
  obtain ⟨⟨before', header'⟩, hfound⟩ :=
    Option.isSome_iff_exists.1 (isSome_findIn?_iff.2 ⟨before, rest, rfl, hsome⟩)
  obtain ⟨⟨rest', heq, hrest'⟩, hfirst'⟩ := exists_of_findIn? hfound
  have hlength : before.length = before'.length :=
    Nat.le_antisymm (hfirst before' rest' heq (Option.isSome_of_eq_some hrest'))
      (hfirst' before rest rfl hsome)
  obtain ⟨rfl, rfl⟩ := List.append_inj heq hlength
  rw [hfound, Option.some.inj (hrest.symm.trans hrest')]

/-! ## The grammar -/

/-- A way to cut a line with a header in it: the parameters are the list in angle brackets, which
may be missing. -/
structure Cut (interface line : String) where
  before : String
  parameters : String
  blank : Char
  after : String
  line_eq :
    line = before ++ (keyword ++ interface ++ parameters ++ String.singleton blank) ++ after
  isParameters : IsParameters parameters.toList
  isBlank : Unicode.isBlank blank = true

namespace Cut

variable {interface line : String}

def header (cut : Cut interface line) : String :=
  keyword ++ interface ++ cut.parameters ++ String.singleton cut.blank

/-- The number of bytes in front of the header. -/
def start (cut : Cut interface line) : Nat :=
  cut.before.utf8ByteSize

/-- The number of bytes up to the end of the header. -/
def stop (cut : Cut interface line) : Nat :=
  (cut.before ++ cut.header).utf8ByteSize

/-- Whether no other cut has less text in front of the header. -/
def IsFirst (cut : Cut interface line) : Prop :=
  ∀ other : Cut interface line, cut.before.length ≤ other.before.length

theorem toList_header (cut : Cut interface line) :
    cut.header.toList = opening interface ++ (cut.parameters.toList ++ [cut.blank]) := by
  simp [header, opening, String.toList_append]

theorem line_eq_append (cut : Cut interface line) :
    line = cut.before ++ (cut.header ++ cut.after) := by
  rw [← String.append_assoc]
  exact cut.line_eq

theorem toList_line (cut : Cut interface line) :
    line.toList = cut.before.toList ++ (cut.header.toList ++ cut.after.toList) := by
  have h := congrArg String.toList cut.line_eq_append
  rwa [String.toList_append, String.toList_append] at h

theorem atStart?_eq (cut : Cut interface line) :
    atStart? (opening interface) (cut.header.toList ++ cut.after.toList) =
      some cut.header.toList := by
  refine atStart?_eq_some_iff.2 ⟨cut.parameters.toList ++ [cut.blank],
    cut.parameters.toList ++ cut.blank :: cut.after.toList, ?_,
    ending?_append cut.isParameters cut.isBlank cut.after.toList, cut.toList_header⟩
  rw [cut.toList_header]
  simp

theorem exists_of_atStart? {front back found : List Char} (hline : line.toList = front ++ back)
    (h : atStart? (opening interface) back = some found) :
    ∃ cut : Cut interface line, cut.before.toList = front ∧ cut.header.toList = found := by
  obtain ⟨ending, rest, rfl, hending, rfl⟩ := atStart?_eq_some_iff.1 h
  obtain ⟨parameters, blank, after, rfl, hp, hb, rfl⟩ := ending?_eq_some_iff.1 hending
  refine ⟨{ before := String.ofList front, parameters := String.ofList parameters, blank
            after := String.ofList after, line_eq := ?_, isParameters := ?_, isBlank := hb },
    String.toList_ofList, ?_⟩
  · rw [← String.toList_inj, hline]
    simp [opening, String.toList_append]
  · rwa [String.toList_ofList]
  · simp [toList_header]

theorem nonempty_iff : (find? interface line).isSome ↔ Nonempty (Cut interface line) := by
  rw [find?, Option.isSome_map, isSome_findIn?_iff]
  constructor
  · rintro ⟨front, back, hline, h⟩
    obtain ⟨found, hfound⟩ := Option.isSome_iff_exists.1 h
    obtain ⟨cut, -, -⟩ := exists_of_atStart? hline hfound
    exact ⟨cut⟩
  · rintro ⟨cut⟩
    exact ⟨_, _, cut.toList_line, Option.isSome_of_eq_some cut.atStart?_eq⟩

theorem find?_eq_some_iff {start stop : Nat} :
    find? interface line = some (start, stop) ↔
      ∃ cut : Cut interface line, cut.IsFirst ∧ start = cut.start ∧ stop = cut.stop := by
  rw [find?, Option.map_eq_some_iff]
  constructor
  · rintro ⟨⟨front, found⟩, hfound, heq⟩
    obtain ⟨rfl, rfl⟩ := Prod.mk.inj heq
    obtain ⟨⟨back, hline, h⟩, hfirst⟩ := findIn?_eq_some_iff.1 hfound
    obtain ⟨cut, rfl, rfl⟩ := exists_of_atStart? hline h
    refine ⟨cut, fun other => ?_, ?_, ?_⟩
    · have hle := hfirst _ _ other.toList_line (Option.isSome_of_eq_some other.atStart?_eq)
      rwa [String.length_toList, String.length_toList] at hle
    · rw [String.ofList_toList, Cut.start]
    · rw [String.ofList_toList, String.ofList_toList, Cut.stop, String.utf8ByteSize_append]
  · rintro ⟨cut, hfirst, rfl, rfl⟩
    refine ⟨(cut.before.toList, cut.header.toList), findIn?_eq_some_iff.2
      ⟨⟨_, cut.toList_line, cut.atStart?_eq⟩, fun front back hline hsome => ?_⟩, ?_⟩
    · obtain ⟨found, hfound⟩ := Option.isSome_iff_exists.1 hsome
      obtain ⟨other, rfl, -⟩ := exists_of_atStart? hline hfound
      rw [String.length_toList, String.length_toList]
      exact hfirst other
    · dsimp only
      rw [String.ofList_toList, String.ofList_toList, Cut.start, Cut.stop,
        String.utf8ByteSize_append]

theorem before_eq_of_start_eq {cut other : Cut interface line} (h : cut.start = other.start) :
    cut.before = other.before := by
  have hline := congrArg String.toByteArray (cut.line_eq_append.symm.trans other.line_eq_append)
  rw [String.toByteArray_append, @String.toByteArray_append other.before] at hline
  exact String.toByteArray_inj.1 (ByteArray.append_inj_left hline h)

theorem stop_eq_of_start_eq {cut other : Cut interface line} (h : cut.start = other.start) :
    cut.stop = other.stop := by
  have hbefore := before_eq_of_start_eq h
  have hrest : cut.header.toList ++ cut.after.toList =
      other.header.toList ++ other.after.toList := by
    have hline := cut.toList_line.symm.trans other.toList_line
    rw [hbefore] at hline
    exact List.append_cancel_left hline
  have hheader : cut.header.toList = other.header.toList := by
    have hcut := cut.atStart?_eq
    rw [hrest, other.atStart?_eq] at hcut
    exact (Option.some.inj hcut).symm
  rw [stop, stop, hbefore, String.toList_inj.1 hheader]

end Cut

/-- **The matcher of headers** accepts its grammar. For every way to name interfaces, every
declaration and every line, whatever characters they have: the pattern can be read, and of the line
it matches what the search finds. There is a match exactly if the line can be cut. What is found are
the bytes of the header in the cut with the least text in front, and where it ends is known by where
it starts. -/
theorem pattern_matches (naming : Naming) (declaration line : String) :
    (∃ regex, Regex.read? (pattern (naming.interface declaration)) = some regex ∧
      regex.find? line = find? (naming.interface declaration) line) ∧
    ((find? (naming.interface declaration) line).isSome ↔
      Nonempty (Cut (naming.interface declaration) line)) ∧
    (∀ start stop, find? (naming.interface declaration) line = some (start, stop) ↔
      ∃ cut : Cut (naming.interface declaration) line,
        cut.IsFirst ∧ start = cut.start ∧ stop = cut.stop) ∧
    ∀ cut other : Cut (naming.interface declaration) line,
      cut.start = other.start → cut.stop = other.stop := by
  refine ⟨⟨Expression.header (opening (naming.interface declaration)), read?_pattern _,
    find?_header _ line⟩, Cut.nonempty_iff, fun start stop => Cut.find?_eq_some_iff,
    fun cut other => Cut.stop_eq_of_start_eq⟩

-- A first place where the name stands does not hide the next one, which overlaps it.
example : find? "interface " "interface interface interface  " = some (10, 31) := by
  rfl

end Accessors.Declaration.Header
