import Accessors.Declaration.Header
import Mathlib.Data.List.Basic

/-!
# The grammar of headers

A header is its opening, type parameters and one white space character (`occursIn_iff`): the search
finds one in a line exactly if the line can be cut that way. Two things follow. A header is not lost
when text is put in behind the line (`occursIn_append_right`), and text without the first letter of
the keyword neither adds nor hides one when it is put in front (`occursIn_append_left`).
-/

namespace Accessors.Declaration.Header

/-! ## The parts of a header -/

/-- Whether a text is a list of type parameters, which may be missing: in angle brackets, one or
more word and white space characters. -/
def IsParameters (cs : List Char) : Prop :=
  cs = [] ∨ ∃ inner, inner ≠ [] ∧ (∀ c ∈ inner, isParameterChar c = true) ∧
    cs = '<' :: inner ++ ['>']

theorem isParameterChar_close : isParameterChar '>' = false := by decide +kernel

theorem isBlank_open : Unicode.isBlank '<' = false := by decide

theorem typeParameters?_list {inner : List Char} (hne : inner ≠ [])
    (h : ∀ c ∈ inner, isParameterChar c = true) (rest : List Char) :
    typeParameters? ('<' :: inner ++ '>' :: rest) = some ('<' :: inner ++ ['>'], rest) := by
  have htake : (inner ++ '>' :: rest).takeWhile isParameterChar = inner := by
    rw [List.takeWhile_append_of_pos h, List.takeWhile_cons, isParameterChar_close]
    simp
  have hdrop : (inner ++ '>' :: rest).dropWhile isParameterChar = '>' :: rest := by
    rw [List.dropWhile_append_of_pos h, List.dropWhile_cons, isParameterChar_close]
    simp
  obtain ⟨c, cs, rfl⟩ := List.exists_cons_of_ne_nil hne
  rw [List.cons_append, typeParameters?]
  simp only [htake, hdrop]

theorem exists_inner_of_typeParameters? {cs parameters rest : List Char}
    (h : typeParameters? cs = some (parameters, rest)) :
    ∃ inner, inner ≠ [] ∧ (∀ c ∈ inner, isParameterChar c = true) ∧
      parameters = '<' :: inner ++ ['>'] := by
  rw [typeParameters?.eq_def] at h
  split at h
  · rename_i ds
    dsimp only at h
    split at h
    · rename_i c inner _ htake hdrop
      have hparameters := congrArg Prod.fst (Option.some.inj h)
      refine ⟨ds.takeWhile isParameterChar, ?_, fun d hd => ?_, hparameters.symm⟩
      · rw [htake]
        exact List.cons_ne_nil c inner
      · exact List.all_eq_true.1 List.all_takeWhile d hd
    · simp at h
  · simp at h

theorem isParameters_of_typeParameters? {cs parameters rest : List Char}
    (h : typeParameters? cs = some (parameters, rest)) : IsParameters parameters :=
  .inr (exists_inner_of_typeParameters? h)

theorem blank?_eq_some {cs rest : List Char} {c : Char} (h : blank? cs = some (c, rest)) :
    cs = c :: rest ∧ Unicode.isBlank c = true := by
  cases cs with
  | nil => simp [blank?] at h
  | cons d ds =>
    rw [blank?] at h
    split at h
    · rename_i hd
      obtain ⟨rfl, rfl⟩ : d = c ∧ ds = rest := by simpa using h
      exact ⟨rfl, hd⟩
    · simp at h

theorem ending?_append {parameters : List Char} {blank : Char} (hp : IsParameters parameters)
    (hb : Unicode.isBlank blank = true) (rest : List Char) :
    ending? (parameters ++ blank :: rest) = some (parameters ++ [blank]) := by
  rcases hp with rfl | ⟨inner, hne, hinner, rfl⟩
  · have hopen : blank ≠ '<' := by
      rintro rfl
      exact absurd hb (by rw [isBlank_open]; decide)
    have hnone : typeParameters? (blank :: rest) = none := by
      rw [typeParameters?.eq_def]
      split
      · rename_i heq
        exact absurd (List.cons.inj heq).1 hopen
      · rfl
    simp [ending?, hnone, blank?, hb]
  · have hsome := typeParameters?_list hne hinner (blank :: rest)
    rw [ending?, List.append_assoc, List.singleton_append, hsome]
    simp [blank?, hb]

theorem ending?_eq_some_iff {cs ending : List Char} :
    ending? cs = some ending ↔ ∃ parameters blank rest, cs = parameters ++ blank :: rest ∧
      IsParameters parameters ∧ Unicode.isBlank blank = true ∧
      ending = parameters ++ [blank] := by
  constructor
  · intro h
    rw [ending?] at h
    split at h
    · rename_i parameters rest hp
      obtain ⟨⟨c, after⟩, hb, rfl⟩ := Option.map_eq_some_iff.1 h
      obtain ⟨rfl, hc⟩ := blank?_eq_some hb
      exact ⟨parameters, c, after, (typeParameters?_append hp).symm,
        isParameters_of_typeParameters? hp, hc, rfl⟩
    · obtain ⟨⟨c, after⟩, hb, rfl⟩ := Option.map_eq_some_iff.1 h
      obtain ⟨rfl, hc⟩ := blank?_eq_some hb
      exact ⟨[], c, after, rfl, .inl rfl, hc, rfl⟩
  · rintro ⟨parameters, blank, rest, rfl, hp, hb, rfl⟩
    exact ending?_append hp hb rest

theorem isSome_ending?_iff {cs : List Char} :
    (ending? cs).isSome ↔ ∃ parameters blank rest, cs = parameters ++ blank :: rest ∧
      IsParameters parameters ∧ Unicode.isBlank blank = true := by
  rw [Option.isSome_iff_exists]
  constructor
  · rintro ⟨ending, h⟩
    obtain ⟨parameters, blank, rest, hcs, hp, hb, -⟩ := ending?_eq_some_iff.1 h
    exact ⟨parameters, blank, rest, hcs, hp, hb⟩
  · rintro ⟨parameters, blank, rest, hcs, hp, hb⟩
    exact ⟨_, ending?_eq_some_iff.2 ⟨parameters, blank, rest, hcs, hp, hb, rfl⟩⟩

/-! ## Headers in a line -/

theorem atStart?_eq_some_iff {opening cs header : List Char} :
    atStart? opening cs = some header ↔ ∃ ending rest, cs = opening ++ rest ∧
      ending? rest = some ending ∧ header = opening ++ ending := by
  constructor
  · intro h
    rw [atStart?] at h
    split at h
    · rename_i rest hr
      obtain ⟨ending, hending, rfl⟩ := Option.map_eq_some_iff.1 h
      exact ⟨ending, rest, (append_of_isPrefixOf? hr).symm, hending, rfl⟩
    · simp at h
  · rintro ⟨ending, rest, rfl, hending, rfl⟩
    rw [atStart?, List.isPrefixOf?_eq_some_iff_append_eq.2 rfl]
    exact congrArg (Option.map (opening ++ ·)) hending

theorem isSome_atStart?_iff {opening cs : List Char} :
    (atStart? opening cs).isSome ↔ ∃ rest, cs = opening ++ rest ∧ (ending? rest).isSome := by
  rw [Option.isSome_iff_exists]
  constructor
  · rintro ⟨header, h⟩
    obtain ⟨ending, rest, hcs, hending, -⟩ := atStart?_eq_some_iff.1 h
    exact ⟨rest, hcs, Option.isSome_of_eq_some hending⟩
  · rintro ⟨rest, hcs, h⟩
    obtain ⟨ending, hending⟩ := Option.isSome_iff_exists.1 h
    exact ⟨opening ++ ending, atStart?_eq_some_iff.2 ⟨ending, rest, hcs, hending, rfl⟩⟩

theorem isSome_findIn?_cons (opening : List Char) (c : Char) (cs : List Char) :
    (findIn? opening (c :: cs)).isSome =
      ((atStart? opening (c :: cs)).isSome || (findIn? opening cs).isSome) := by
  rw [findIn?]
  split <;> simp_all

theorem isSome_findIn?_iff {opening cs : List Char} :
    (findIn? opening cs).isSome ↔
      ∃ before rest, cs = before ++ rest ∧ (atStart? opening rest).isSome := by
  induction cs with
  | nil =>
    rw [findIn?, Option.isSome_map]
    constructor
    · intro h
      exact ⟨[], [], rfl, h⟩
    · rintro ⟨before, rest, heq, h⟩
      obtain ⟨rfl, rfl⟩ := List.append_eq_nil_iff.1 heq.symm
      exact h
  | cons c cs ih =>
    rw [isSome_findIn?_cons, Bool.or_eq_true, ih]
    constructor
    · rintro (h | ⟨before, rest, rfl, h⟩)
      · exact ⟨[], c :: cs, rfl, h⟩
      · exact ⟨c :: before, rest, rfl, h⟩
    · rintro ⟨before, rest, heq, h⟩
      cases before with
      | nil => exact .inl (heq ▸ h)
      | cons d ds => exact .inr ⟨ds, rest, (List.cons.inj heq).2, h⟩

/-- **A line holds a header exactly if it can be cut into** some text, the keyword and the name,
type parameters, a white space character and some text. -/
theorem occursIn_iff {interface line : String} :
    occursIn interface line = true ↔ ∃ before parameters blank after,
      line.toList = before ++ (opening interface ++ (parameters ++ blank :: after)) ∧
        IsParameters parameters ∧ Unicode.isBlank blank = true := by
  rw [occursIn, find?, Option.isSome_map, isSome_findIn?_iff]
  constructor
  · rintro ⟨before, rest, hline, h⟩
    obtain ⟨tail, rfl, htail⟩ := isSome_atStart?_iff.1 h
    obtain ⟨parameters, blank, after, rfl, hp, hb⟩ := isSome_ending?_iff.1 htail
    exact ⟨before, parameters, blank, after, hline, hp, hb⟩
  · rintro ⟨before, parameters, blank, after, hline, hp, hb⟩
    exact ⟨before, _, hline, isSome_atStart?_iff.2
      ⟨_, rfl, isSome_ending?_iff.2 ⟨parameters, blank, after, rfl, hp, hb⟩⟩⟩

theorem occursIn_append_right {interface line : String} (h : occursIn interface line = true)
    (after : String) : occursIn interface (line ++ after) = true := by
  obtain ⟨before, parameters, blank, rest, hline, hp, hb⟩ := occursIn_iff.1 h
  refine occursIn_iff.2 ⟨before, parameters, blank, rest ++ after.toList, ?_, hp, hb⟩
  rw [String.toList_append, hline]
  simp

theorem opening_eq_cons (interface : String) :
    opening interface = 'i' :: "nterface ".toList ++ interface.toList := by
  rw [opening, keyword, String.toList_append]
  rfl

theorem occursIn_append_left {before : String} (h : 'i' ∉ before.toList) (interface line : String) :
    occursIn interface (before ++ line) = occursIn interface line := by
  simp only [occursIn, find?, Option.isSome_map, String.toList_append]
  generalize before.toList = front at h
  induction front with
  | nil => rfl
  | cons c cs ih =>
    have hnone : (atStart? (opening interface) (c :: (cs ++ line.toList))).isSome = false := by
      refine Bool.eq_false_iff.2 fun hsome => ?_
      obtain ⟨rest, heq, -⟩ := isSome_atStart?_iff.1 hsome
      rw [opening_eq_cons] at heq
      exact h ((List.cons.inj heq).1 ▸ List.mem_cons_self)
    rw [List.cons_append, isSome_findIn?_cons, hnone, Bool.false_or]
    exact ih fun hmem => h (List.mem_cons_of_mem c hmem)

end Accessors.Declaration.Header
