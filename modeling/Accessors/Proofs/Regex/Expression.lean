import Mathlib.Data.List.Basic

/-!
# Regular expressions

A `Regex` is a regular expression with the operations that a search for a name needs. An expression
may match at one place in several ways; `Regex.runs` lists them in the order of preference, where a
part that may be repeated or left out takes as much as it can. Of a text, `Regex.find?` takes the
first place with a match, and there the match that is preferred.

A literal text matches itself and nothing else (`runs_text`).
-/

namespace Accessors

/-- A regular expression. -/
inductive Regex
  | empty
  /-- One character of a set. -/
  | one (set : Char → Bool)
  /-- One or more characters of a set, as many as possible. -/
  | many (set : Char → Bool)
  /-- An expression, or nothing if need be. -/
  | optional (inner : Regex)
  /-- An expression and another one behind it. -/
  | seq (first second : Regex)

namespace Regex

/-- The ways to take one or more characters of a set off the front of a text, the longest one
first: what is taken and what is left. -/
def spans (set : Char → Bool) : List Char → List (List Char × List Char)
  | [] => []
  | c :: cs =>
    if set c then (spans set cs).map (fun found => (c :: found.1, found.2)) ++ [([c], cs)]
    else []

/-- The ways in which an expression matches at the start of a text, in the order of preference: what
it takes and what is left. -/
def runs : Regex → List Char → List (List Char × List Char)
  | empty, cs => [([], cs)]
  | one _, [] => []
  | one set, c :: cs => if set c then [([c], cs)] else []
  | many set, cs => spans set cs
  | optional inner, cs => inner.runs cs ++ [([], cs)]
  | seq first second, cs =>
    (first.runs cs).flatMap fun found =>
      (second.runs found.2).map fun next => (found.1 ++ next.1, next.2)

/-- What an expression matches at the start of a text, if it does. -/
def atStart? (regex : Regex) (cs : List Char) : Option (List Char) :=
  (regex.runs cs).head?.map (·.1)

/-- What an expression matches in a text, at the first place where it does, and the text in front of
it. -/
def findIn? (regex : Regex) : List Char → Option (List Char × List Char)
  | [] => (regex.atStart? []).map fun found => ([], found)
  | c :: cs =>
    match regex.atStart? (c :: cs) with
    | some found => some ([], found)
    | none => (regex.findIn? cs).map fun (before, found) => (c :: before, found)

/-- The bytes of a text that the first match takes up: where it starts and where it ends. -/
def find? (regex : Regex) (text : String) : Option (Nat × Nat) :=
  (regex.findIn? text.toList).map fun (before, found) =>
    let start := (String.ofList before).utf8ByteSize
    (start, start + (String.ofList found).utf8ByteSize)

/-- The expression for one character. -/
def char (c : Char) : Regex :=
  one (· == c)

/-- An expression and a text behind it, character by character. -/
def text (regex : Regex) (cs : List Char) : Regex :=
  cs.foldl (fun regex c => seq regex (char c)) regex

/-! ## Sequences -/

theorem runs_empty_seq (regex : Regex) (cs : List Char) :
    (seq empty regex).runs cs = regex.runs cs := by
  simp [runs]

theorem runs_seq_assoc (first second third : Regex) (cs : List Char) :
    (seq (seq first second) third).runs cs = (seq first (seq second third)).runs cs := by
  simp only [runs, List.flatMap_assoc, List.flatMap_map, List.map_flatMap, List.map_map,
    Function.comp_def, List.append_assoc]

/-! ## Literal text -/

theorem runs_char (c : Char) (cs : List Char) :
    (char c).runs cs = (([c].isPrefixOf? cs).map fun rest => ([c], rest)).toList := by
  cases cs with
  | nil => rfl
  | cons d ds =>
    by_cases h : d = c
    · subst h
      simp [char, runs, List.isPrefixOf?]
    · have h' : c ≠ d := Ne.symm h
      simp [char, runs, List.isPrefixOf?, h, h']

theorem runs_text (regex : Regex) (literal cs : List Char) :
    (regex.text literal).runs cs = (regex.runs cs).flatMap fun found =>
      ((literal.isPrefixOf? found.2).map fun rest => (found.1 ++ literal, rest)).toList := by
  induction literal generalizing regex with
  | nil => simp [text, List.isPrefixOf?]
  | cons c literal ih =>
    show ((seq regex (char c)).text literal).runs cs = _
    rw [ih, runs, List.flatMap_assoc]
    congr 1
    funext ⟨taken, rest⟩
    rw [runs_char, List.flatMap_map]
    cases rest with
    | nil => rfl
    | cons d ds =>
      by_cases h : c = d
      · subst h
        simp [List.isPrefixOf?]
      · simp [List.isPrefixOf?, h]

/-! ## Characters of a set -/

variable {set : Char → Bool} {close : Char}

theorem spans_of_head {cs : List Char} (h : ∀ c ∈ cs.head?, set c = false) : spans set cs = [] := by
  cases cs with
  | nil => rfl
  | cons c cs => rw [spans, if_neg (by rw [h c rfl]; decide)]

theorem mem_spans {cs taken rest : List Char} (h : (taken, rest) ∈ spans set cs) :
    taken ≠ [] ∧ (∀ c ∈ taken, set c = true) ∧ cs = taken ++ rest := by
  induction cs generalizing taken with
  | nil => simp [spans] at h
  | cons c cs ih =>
    rw [spans] at h
    split at h
    · rename_i hc
      rcases List.mem_append.1 h with hmap | hone
      · obtain ⟨⟨taken', rest'⟩, hmem, heq⟩ := List.mem_map.1 hmap
        obtain ⟨rfl, rfl⟩ := Prod.mk.inj heq
        obtain ⟨-, hset, rfl⟩ := ih hmem
        exact ⟨List.cons_ne_nil _ _, List.forall_mem_cons.2 ⟨hc, hset⟩, rfl⟩
      · obtain ⟨rfl, rfl⟩ := Prod.mk.inj (List.mem_singleton.1 hone)
        exact ⟨List.cons_ne_nil _ _, by simpa using hc, rfl⟩
    · simp at h

theorem runs_many_char (hclose : set close = false) {inner : List Char} (hne : inner ≠ [])
    (hinner : ∀ c ∈ inner, set c = true) (rest : List Char) :
    (seq (many set) (char close)).runs (inner ++ close :: rest) =
      [(inner ++ [close], rest)] := by
  induction inner with
  | nil => exact absurd rfl hne
  | cons c inner ih =>
    have hc : set c = true := hinner c List.mem_cons_self
    rw [runs, runs, List.cons_append, spans, if_pos hc, List.flatMap_append, List.flatMap_map,
      List.flatMap_singleton]
    cases inner with
    | nil =>
      have hspans : spans set (close :: rest) = [] :=
        spans_of_head fun d hd => by rw [← Option.some.inj hd]; exact hclose
      simp [hspans, char, runs]
    | cons d inner =>
      have hd : d ≠ close := by
        rintro rfl
        rw [hinner d (by simp)] at hclose
        cases hclose
      have hlast : (char close).runs (d :: (inner ++ close :: rest)) = [] := by
        rw [char, runs, if_neg (by simpa using hd)]
      have htail := ih (List.cons_ne_nil d inner) fun e he => hinner e (List.mem_cons_of_mem c he)
      have hmap := congrArg (List.map fun found => (c :: found.1, found.2)) htail
      rw [runs, runs, List.map_flatMap] at hmap
      simpa [hlast, Function.comp_def] using hmap

theorem exists_of_mem_runs_many_char {cs : List Char} {found : List Char × List Char}
    (h : found ∈ (seq (many set) (char close)).runs cs) :
    ∃ inner, inner ≠ [] ∧ (∀ c ∈ inner, set c = true) ∧ cs = inner ++ close :: found.2 := by
  rw [runs, List.mem_flatMap] at h
  obtain ⟨⟨taken, rest⟩, hspan, hclosed⟩ := h
  obtain ⟨⟨last, rest'⟩, hlast, rfl⟩ := List.mem_map.1 hclosed
  obtain ⟨hne, hset, rfl⟩ := mem_spans hspan
  rw [runs_char, Option.mem_toList, Option.map_eq_some_iff] at hlast
  obtain ⟨after, hafter, heq⟩ := hlast
  obtain ⟨rfl, rfl⟩ := Prod.mk.inj heq
  rw [List.isPrefixOf?_eq_some_iff_append_eq] at hafter
  have hrest : rest = close :: after := hafter.symm
  exact ⟨taken, hne, hset, congrArg (taken ++ ·) hrest⟩

end Regex

end Accessors
