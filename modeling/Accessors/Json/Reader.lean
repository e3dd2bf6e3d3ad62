import Accessors.Json.Quoted

/-!
# Reading JSON

Readers take a value off the front of a text and leave what follows it. A list of records is read
field by field: a record has two fields, is written as an object or as an array of its fields in
order, and may hold further keys in an object, whose values are skipped whatever they are.
-/

namespace Accessors.Json

/-- Whether a character separates tokens. -/
def isSpace (c : Char) : Bool :=
  c == ' ' || c == '\n' || c == '\t' || c == '\r'

/-- The text without the space at its start. -/
def skipSpace (cs : List Char) : List Char :=
  cs.dropWhile isSpace

/-! ## Skipping a value -/

/-- What follows at least one digit at the start of a text. -/
def skipDigits? (cs : List Char) : Option (List Char) :=
  match cs with
  | [] => none
  | c :: rest => if c.isDigit then some (rest.dropWhile Char.isDigit) else none

/-- What follows a fraction, if there is one. -/
def skipFraction? : List Char → Option (List Char)
  | '.' :: cs => skipDigits? cs
  | cs => some cs

/-- What follows an exponent, if there is one. -/
def skipExponent? : List Char → Option (List Char)
  | c :: cs =>
    if c = 'e' ∨ c = 'E' then
      match cs with
      | '+' :: cs => skipDigits? cs
      | '-' :: cs => skipDigits? cs
      | cs => skipDigits? cs
    else
      some (c :: cs)
  | [] => some []

/-- What follows the whole part of a number, which has no leading zero. -/
def skipWhole? : List Char → Option (List Char)
  | '0' :: cs => some cs
  | cs => skipDigits? cs

/-- What follows a number. -/
def skipNumber? (cs : List Char) : Option (List Char) := do
  let rest ← match cs with
    | '-' :: cs => skipWhole? cs
    | cs => skipWhole? cs
  skipExponent? (← skipFraction? rest)

/-- What follows the items of an array and its closing bracket, given what follows one item. -/
def skipItems? (skip? : List Char → Option (List Char)) (cs : List Char) : Option (List Char) :=
  match skip? (skipSpace cs) with
  | none => none
  | some rest =>
    match skipSpace rest with
    | ']' :: rest => some rest
    | ',' :: rest => if rest.length < cs.length then skipItems? skip? rest else none
    | _ => none
termination_by cs.length

/-- What follows a key and its colon. -/
def skipKey? (cs : List Char) : Option (List Char) :=
  match cs with
  | '"' :: cs =>
    match (Quoted.skip? cs).map skipSpace with
    | some (':' :: rest) => some rest
    | _ => none
  | _ => none

/-- What follows the members of an object and its closing brace, given what follows one value. -/
def skipMembers? (skip? : List Char → Option (List Char)) (cs : List Char) : Option (List Char) :=
  match (skipKey? (skipSpace cs)).bind fun rest => skip? (skipSpace rest) with
  | none => none
  | some rest =>
    match skipSpace rest with
    | '\x7d' :: rest => some rest
    | ',' :: rest => if rest.length < cs.length then skipMembers? skip? rest else none
    | _ => none
termination_by cs.length

/-- What follows a value. The first argument bounds how deep it goes. -/
def skipValue? : Nat → List Char → Option (List Char)
  | 0, _ => none
  | depth + 1, cs =>
    match cs with
    | '"' :: rest => Quoted.skip? rest
    | '[' :: rest =>
      match skipSpace rest with
      | ']' :: rest => some rest
      | _ => skipItems? (skipValue? depth) rest
    | '\x7b' :: rest =>
      match skipSpace rest with
      | '\x7d' :: rest => some rest
      | _ => skipMembers? (skipValue? depth) rest
    | 't' :: 'r' :: 'u' :: 'e' :: rest => some rest
    | 'f' :: 'a' :: 'l' :: 's' :: 'e' :: rest => some rest
    | 'n' :: 'u' :: 'l' :: 'l' :: rest => some rest
    | _ => skipNumber? cs

/-! ## Numbers -/

/-- Takes a number of 32 bits off the front of a text. It has no sign, no leading zero, no fraction
and no exponent. -/
def readWord? (cs : List Char) : Option (UInt32 × List Char) :=
  let digits := cs.takeWhile Char.isDigit
  let rest := cs.dropWhile Char.isDigit
  let more := rest.head?.any fun c => c == '.' || c == 'e' || c == 'E'
  let padded := 1 < digits.length && digits.head? == some '0'
  if more || padded then none
  else
    ((Text.decimal? digits).filter (· < UInt32.size)).map fun number =>
      (UInt32.ofNat number, rest)

/-! ## Records -/

variable {α : Type}

/-- The two fields of a record as far as they have been read. -/
abbrev Partial (α : Type) := Option α × Option α

/-- Takes the members of an object and its closing brace off the front of a text. A field may be
given once. -/
def members? (first second : String) (field? : List Char → Option (α × List Char))
    (read : Partial α) (cs : List Char) : Option (Partial α × List Char) :=
  match Quoted.read? (skipSpace cs) with
  | none => none
  | some (name, rest) =>
    let member? : Option (Partial α × List Char) :=
      match skipSpace rest with
      | ':' :: rest =>
        if name = first then
          if read.1.isSome then none
          else (field? (skipSpace rest)).map fun (a, rest) => ((some a, read.2), rest)
        else if name = second then
          if read.2.isSome then none
          else (field? (skipSpace rest)).map fun (a, rest) => ((read.1, some a), rest)
        else
          (skipValue? rest.length (skipSpace rest)).map fun rest => (read, rest)
      | _ => none
    match member? with
    | none => none
    | some (read, rest) =>
      match skipSpace rest with
      | '\x7d' :: rest => some (read, rest)
      | ',' :: rest =>
        if rest.length < cs.length then members? first second field? read rest else none
      | _ => none
termination_by cs.length

/-- Takes a record off the front of a text. -/
def record? (first second : String) (field? : List Char → Option (α × List Char)) :
    List Char → Option ((α × α) × List Char)
  | '\x7b' :: cs =>
    match members? first second field? (none, none) cs with
    | some ((some a, some b), rest) => some ((a, b), rest)
    | _ => none
  | '[' :: cs => do
    let (a, rest) ← field? (skipSpace cs)
    match skipSpace rest with
    | ',' :: rest =>
      let (b, rest) ← field? (skipSpace rest)
      match skipSpace rest with
      | ']' :: rest => return ((a, b), rest)
      | _ => none
    | _ => none
  | _ => none

/-- Takes the items of a list and its closing bracket off the front of a text. -/
def items? (item? : List Char → Option (α × List Char)) (cs : List Char) :
    Option (List α × List Char) :=
  match item? (skipSpace cs) with
  | none => none
  | some (a, rest) =>
    match skipSpace rest with
    | ']' :: rest => some ([a], rest)
    | ',' :: rest =>
      if rest.length < cs.length then
        (items? item? rest).map fun (as, rest) => (a :: as, rest)
      else
        none
    | _ => none
termination_by cs.length

/-- The list that a text consists of. -/
def list? (item? : List Char → Option (α × List Char)) (text : String) : Option (List α) :=
  match skipSpace text.toList with
  | '[' :: cs =>
    let read :=
      match skipSpace cs with
      | ']' :: rest => some ([], rest)
      | _ => items? item? cs
    match read with
    | some (as, rest) => if (skipSpace rest).isEmpty then some as else none
    | none => none
  | _ => none

end Accessors.Json
