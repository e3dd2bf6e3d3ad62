import Accessors.Declaration.Header
import Accessors.Proofs.Regex.Expression

/-!
# Reading regular expressions

`Regex.read?` reads an expression from its text. The text is first cut into symbols, which are
characters and characters behind a backslash (`symbols?`). They are then read one after another
(`Reading.step?`); what has been read so far is a stack of open groups, and the sets of the brackets
that are still open. Of the signs that do not stand for themselves, those are read which group,
which repeat a part or let it be left out, and which collect sets in brackets.

An escaped text is read as the literal text, whatever characters it has (`read?_escape`).
-/

namespace Accessors.Regex

open Declaration.Header (special escape)

/-! ## Symbols -/

inductive Symbol
  | plain (c : Char)
  /-- A character behind a backslash. -/
  | escaped (c : Char)

/-- The symbols of the text of an expression, which does not end in a backslash. -/
def symbols? : List Char → Option (List Symbol)
  | [] => some []
  | ['\\'] => none
  | '\\' :: c :: cs => (symbols? cs).map (.escaped c :: ·)
  | c :: cs => (symbols? cs).map (.plain c :: ·)

/-- What a character behind a backslash matches: itself, if it has a meaning without one, or a
set. -/
def escapedSet? (c : Char) : Option (Char → Bool) :=
  if special.contains c then some (· == c)
  else
    match c with
    | 'w' => some Unicode.isWord
    | 's' => some Unicode.isBlank
    | _ => none

/-! ## Groups -/

/-- A group as far as it has been read. -/
structure Group where
  /-- The expression in front of the last part. -/
  front : Regex := empty
  /-- The last part, if a sign behind it would change it. -/
  last? : Option Regex := none

namespace Group

/-- The expression of all parts. -/
def close (group : Group) : Regex :=
  match group.last? with
  | none => group.front
  | some last => seq group.front last

def add (group : Group) (part : Regex) : Group where
  front := group.close
  last? := some part

/-- The group with what a sign makes of its last part. -/
def change? (group : Group) (sign : Regex → Option Regex) : Option Group := do
  let part ← sign (← group.last?)
  return { front := seq group.front part }

end Group

/-- One or more of what matches a single character. -/
def repeated? : Regex → Option Regex
  | one set => some (many set)
  | _ => none

/-! ## Reading -/

/-- What has been read. -/
structure Reading where
  /-- The innermost open group. -/
  group : Group := {}
  /-- The groups around it, from the inside to the outside. -/
  outer : List Group := []
  /-- The sets in the brackets that are open, if any are. -/
  sets? : Option (List (Char → Bool)) := none

namespace Reading

def add (reading : Reading) (part : Regex) : Reading :=
  { reading with group := reading.group.add part }

def change? (reading : Reading) (sign : Regex → Option Regex) : Option Reading :=
  (reading.group.change? sign).map fun group => { reading with group }

/-- Reads a character with a meaning of its own. -/
def sign? (reading : Reading) : Char → Option Reading
  | '?' => reading.change? fun last => some (optional last)
  | '+' => reading.change? repeated?
  | '[' => some { reading with sets? := some [] }
  | '(' => some { group := {}, outer := reading.group :: reading.outer }
  | ')' =>
    match reading.outer with
    | [] => none
    | around :: outer => some { group := around.add reading.group.close, outer }
  | _ => none

/-- Reads a symbol in brackets, where `sets` have been read. -/
def inBrackets? (reading : Reading) (sets : List (Char → Bool)) : Symbol → Option Reading
  | .escaped c => (escapedSet? c).map fun set => { reading with sets? := some (sets ++ [set]) }
  | .plain ']' =>
    if sets.isEmpty then none
    else some { reading.add (one fun c => sets.any (· c)) with sets? := none }
  | .plain _ => none

/-- Reads a symbol where no brackets are open. -/
def outside? (reading : Reading) : Symbol → Option Reading
  | .escaped c => (escapedSet? c).map fun set => reading.add (one set)
  | .plain c => if special.contains c then reading.sign? c else some (reading.add (char c))

/-- Reads one symbol. -/
def step? (reading : Reading) (symbol : Symbol) : Option Reading :=
  match reading.sets? with
  | none => reading.outside? symbol
  | some sets => reading.inBrackets? sets symbol

/-- The expression that has been read, if nothing is open. -/
def result? (reading : Reading) : Option Regex :=
  if reading.outer.isEmpty && reading.sets?.isNone then some reading.group.close else none

end Reading

/-- The expression that a text spells. -/
def read? (pattern : String) : Option Regex := do
  let symbols ← symbols? pattern.toList
  let reading ← symbols.foldlM Reading.step? {}
  reading.result?

/-! ## Escaped text -/

/-- The symbol that stands for one character and nothing else. -/
def literal (c : Char) : Symbol :=
  if special.contains c then .escaped c else .plain c

theorem symbols?_plain {c : Char} (h : c ≠ '\\') (cs : List Char) :
    symbols? (c :: cs) = (symbols? cs).map (.plain c :: ·) := by
  rw [symbols?]
  · rintro rfl
    exact absurd rfl h
  · rintro d ds rfl
    exact absurd rfl h

theorem escape_cons (c : Char) (cs : List Char) :
    escape (c :: cs) = (if special.contains c then ['\\', c] else [c]) ++ escape cs := by
  rw [escape, List.flatMap_cons]
  rfl

theorem symbols?_escape (cs rest : List Char) :
    symbols? (escape cs ++ rest) = (symbols? rest).map (cs.map literal ++ ·) := by
  induction cs with
  | nil => simp [escape]
  | cons c cs ih =>
    have hmap : ((symbols? (escape cs ++ rest)).map (literal c :: ·)) =
        (symbols? rest).map ((c :: cs).map literal ++ ·) := by
      rw [ih, Option.map_map]
      rfl
    rw [escape_cons]
    by_cases hc : special.contains c
    · rw [literal, if_pos hc] at hmap
      rw [if_pos hc]
      exact hmap
    · rw [literal, if_neg hc] at hmap
      have hne : c ≠ '\\' := by
        rintro rfl
        exact hc (by decide)
      rw [if_neg hc, List.append_assoc, List.singleton_append, symbols?_plain hne]
      exact hmap

theorem step?_literal {reading : Reading} (h : reading.sets? = none) (c : Char) :
    reading.step? (literal c) = some (reading.add (char c)) := by
  have hstep : reading.step? (literal c) = reading.outside? (literal c) := by
    rw [Reading.step?, h]
  rw [hstep, literal]
  by_cases hc : special.contains c
  · have hset : escapedSet? c = some (· == c) := if_pos hc
    rw [if_pos hc, Reading.outside?, hset]
    rfl
  · rw [if_neg hc, Reading.outside?, if_neg hc]

/-- The group with a literal text behind it. -/
def Group.addText (group : Group) (cs : List Char) : Group :=
  cs.foldl (fun group c => group.add (char c)) group

theorem Group.close_addText (group : Group) (cs : List Char) :
    (group.addText cs).close = group.close.text cs := by
  induction cs generalizing group with
  | nil => rfl
  | cons c cs ih => exact ih (group.add (char c))

theorem foldlM_literal {reading : Reading} (h : reading.sets? = none) (cs : List Char) :
    (cs.map literal).foldlM Reading.step? reading =
      some { reading with group := reading.group.addText cs } := by
  induction cs generalizing reading with
  | nil => rfl
  | cons c cs ih =>
    rw [List.map_cons, List.foldlM_cons, step?_literal h]
    exact ih h

/-- **Escaped text at the start of a pattern** is read as the text, and the reader goes on behind
it. -/
theorem read?_escape {pattern : String} {cs rest : List Char}
    (h : pattern.toList = escape cs ++ rest) :
    read? pattern = (symbols? rest).bind fun symbols =>
      (symbols.foldlM Reading.step? { group := Group.addText {} cs }).bind Reading.result? := by
  rw [read?, h, symbols?_escape]
  cases symbols? rest with
  | none => rfl
  | some symbols =>
    show ((cs.map literal ++ symbols).foldlM Reading.step? {}).bind Reading.result? = _
    rw [List.foldlM_append, foldlM_literal rfl]
    rfl

end Accessors.Regex
