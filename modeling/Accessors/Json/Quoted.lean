import Accessors.Text.Number

/-!
# JSON strings

A string stands in double quotes. `encode` writes one and `content?` reads one: quotes, backslashes
and control characters are escaped, and every other character stands for itself. `skip?` passes over
a string without asking what its escapes stand for.
-/

namespace Accessors.Json.Quoted

/-! ## Writing -/

/-- A character as it stands in a string. -/
def encodeChar (c : Char) : List Char :=
  if c = '"' then ['\\', '"']
  else if c = '\\' then ['\\', '\\']
  else if c = '\x08' then ['\\', 'b']
  else if c = '\x0c' then ['\\', 'f']
  else if c = '\n' then ['\\', 'n']
  else if c = '\r' then ['\\', 'r']
  else if c = '\t' then ['\\', 't']
  else if c.toNat < 0x20 then
    ['\\', 'u', '0', '0'] ++ Text.hexPair c.toNat
  else [c]

/-- A string with its quotes. -/
def encode (text : String) : String :=
  "\"" ++ String.ofList (text.toList.flatMap encodeChar) ++ "\""

/-! ## Reading -/

/-- Whether a number is the first half of a pair that stands for one character. -/
def isHighHalf (unit : Nat) : Bool :=
  0xD800 ≤ unit && unit < 0xDC00

/-- Whether a number is the second half of a pair that stands for one character. -/
def isLowHalf (unit : Nat) : Bool :=
  0xDC00 ≤ unit && unit < 0xE000

/-- The character that two halves stand for. -/
def joinHalves (high low : Nat) : Char :=
  Char.ofNat (0x10000 + (high - 0xD800) * 0x400 + (low - 0xDC00))

/-- The character of an escape by code, given the text behind the `u`, and how many characters of
that text make it up. A half that stands alone is refused. -/
def coded? (cs : List Char) : Option (Char × Nat) :=
  match Text.hexOfWidth? 4 (cs.take 4) with
  | none => none
  | some unit =>
    if isHighHalf unit then
      match cs.drop 4 with
      | '\\' :: 'u' :: ds =>
        match Text.hexOfWidth? 4 (ds.take 4) with
        | some low => if isLowHalf low then some (joinHalves unit low, 10) else none
        | none => none
      | _ => none
    else if isLowHalf unit then
      none
    else
      some (Char.ofNat unit, 4)

/-- The character that an escape stands for, given the text behind the backslash, and how many
characters of that text make up the escape. -/
def escape? : List Char → Option (Char × Nat)
  | '"' :: _ => some ('"', 1)
  | '\\' :: _ => some ('\\', 1)
  | '/' :: _ => some ('/', 1)
  | 'b' :: _ => some ('\x08', 1)
  | 'f' :: _ => some ('\x0c', 1)
  | 'n' :: _ => some ('\n', 1)
  | 'r' :: _ => some ('\r', 1)
  | 't' :: _ => some ('\t', 1)
  | 'u' :: cs => (coded? cs).map fun (c, length) => (c, length + 1)
  | _ => none

/-- The content of a string, up to the closing quote, and what follows it. -/
def content? : List Char → Option (List Char × List Char)
  | [] => none
  | '"' :: rest => some ([], rest)
  | '\\' :: cs =>
    match escape? cs with
    | none => none
    | some (c, length) =>
      (content? (cs.drop length)).map fun (content, rest) => (c :: content, rest)
  | c :: cs =>
    if c.toNat < 0x20 then none
    else (content? cs).map fun (content, rest) => (c :: content, rest)
termination_by cs => cs.length

/-- Takes a string off the front of a text. -/
def read? : List Char → Option (String × List Char)
  | '"' :: cs => (content? cs).map fun (content, rest) => (String.ofList content, rest)
  | _ => none

/-! ## Skipping -/

/-- How many characters of a text behind a backslash make up an escape, whatever it stands for. -/
def escapeLength? : List Char → Option Nat
  | 'u' :: cs => (Text.hexOfWidth? 4 (cs.take 4)).map fun _ => 5
  | cs => (escape? cs).map (·.2)

/-- What follows the closing quote of a string. -/
def skip? : List Char → Option (List Char)
  | [] => none
  | '"' :: rest => some rest
  | '\\' :: cs =>
    match escapeLength? cs with
    | none => none
    | some length => skip? (cs.drop length)
  | c :: cs => if c.toNat < 0x20 then none else skip? cs
termination_by cs => cs.length

end Accessors.Json.Quoted
