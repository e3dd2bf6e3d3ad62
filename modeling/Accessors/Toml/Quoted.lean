import Accessors.Toml.Scalar

/-!
# Quoted strings

A string is written in one of four ways: on one line in double quotes, with escapes, or in single
quotes, without; and over several lines in three quotes of either kind. A line break right after
three opening quotes does not belong to the string, and up to two quotes may stand in front of the
three closing ones.
-/

namespace Accessors.Toml.Quoted

/-- Whether a character may stand in a string or a comment as it is. -/
def isPlain (c : Char) : Bool :=
  c == '\t' || (0x20 ≤ c.toNat && c.toNat ≠ 0x7F)

/-! ## Escapes -/

/-- The character with a code point written in base sixteen, with exactly so many digits. -/
def codePoint? (width : Nat) (cs : List Char) : Option Char :=
  (Text.hexOfWidth? width cs).bind fun number =>
    if h : number.isValidChar then some (Char.ofNatAux number h) else none

/-- The character that an escape stands for, given the text behind the backslash, and how many
characters of that text make up the escape. -/
def escape? : List Char → Option (Char × Nat)
  | 'b' :: _ => some ('\x08', 1)
  | 't' :: _ => some ('\t', 1)
  | 'n' :: _ => some ('\n', 1)
  | 'f' :: _ => some ('\x0c', 1)
  | 'r' :: _ => some ('\r', 1)
  | 'e' :: _ => some ('\x1b', 1)
  | '"' :: _ => some ('"', 1)
  | '\\' :: _ => some ('\\', 1)
  | 'x' :: cs => (codePoint? 2 (cs.take 2)).map (·, 3)
  | 'u' :: cs => (codePoint? 4 (cs.take 4)).map (·, 5)
  | 'U' :: cs => (codePoint? 8 (cs.take 8)).map (·, 9)
  | _ => none

/-- The number of spaces and line breaks at the start of a text. -/
def gapLength : List Char → Nat
  | '\n' :: cs => gapLength cs + 1
  | '\r' :: '\n' :: cs => gapLength cs + 2
  | c :: cs => if Word.isSpace c then gapLength cs + 1 else 0
  | [] => 0

/-- How many characters a line break is joined over, given the text behind a backslash: none unless
only spaces are in front of the line break. -/
def joint? (cs : List Char) : Option Nat :=
  match cs.dropWhile Word.isSpace with
  | '\n' :: _ => some (gapLength cs)
  | '\r' :: '\n' :: _ => some (gapLength cs)
  | _ => none

/-! ## On one line -/

/-- The content of a string in double quotes, up to the closing quote, and what follows it. -/
def basic? : List Char → Option (List Char × List Char)
  | [] => none
  | '"' :: rest => some ([], rest)
  | '\\' :: cs =>
    match escape? cs with
    | none => none
    | some (c, length) => (basic? (cs.drop length)).map fun (content, rest) => (c :: content, rest)
  | c :: cs =>
    if isPlain c then (basic? cs).map fun (content, rest) => (c :: content, rest) else none
termination_by cs => cs.length

/-- The content of a string in single quotes, up to the closing quote, and what follows it. -/
def literal? : List Char → Option (List Char × List Char)
  | [] => none
  | '\'' :: rest => some ([], rest)
  | c :: cs =>
    if isPlain c then (literal? cs).map fun (content, rest) => (c :: content, rest) else none

/-! ## Over several lines -/

/-- The quotes that stand in front of three closing ones, and what follows them all, given the text
behind the first three quotes. -/
def closing (quote : Char) : List Char → List Char × List Char
  | c :: d :: rest =>
    if c = quote then
      if d = quote then ([quote, quote], rest) else ([quote], d :: rest)
    else
      ([], c :: d :: rest)
  | [c] => if c = quote then ([quote], []) else ([], [c])
  | [] => ([], [])

/-- The content of a string in three double quotes and what follows it. -/
def multiBasic? : List Char → Option (List Char × List Char)
  | [] => none
  | '"' :: '"' :: '"' :: rest => some (closing '"' rest)
  | '\r' :: '\n' :: cs =>
    (multiBasic? cs).map fun (content, rest) => ('\r' :: '\n' :: content, rest)
  | '\\' :: cs =>
    match joint? cs with
    | some length => multiBasic? (cs.drop length)
    | none =>
      match escape? cs with
      | none => none
      | some (c, length) =>
        (multiBasic? (cs.drop length)).map fun (content, rest) => (c :: content, rest)
  | c :: cs =>
    if isPlain c || c == '\n' then
      (multiBasic? cs).map fun (content, rest) => (c :: content, rest)
    else
      none
termination_by cs => cs.length

/-- The content of a string in three single quotes and what follows it. -/
def multiLiteral? : List Char → Option (List Char × List Char)
  | [] => none
  | '\'' :: '\'' :: '\'' :: rest => some (closing '\'' rest)
  | '\r' :: '\n' :: cs =>
    (multiLiteral? cs).map fun (content, rest) => ('\r' :: '\n' :: content, rest)
  | c :: cs =>
    if isPlain c || c == '\n' then
      (multiLiteral? cs).map fun (content, rest) => (c :: content, rest)
    else
      none

def dropLineBreak : List Char → List Char
  | '\n' :: cs => cs
  | '\r' :: '\n' :: cs => cs
  | cs => cs

/-! ## Any string -/

/-- Takes a string on one line off the front of a text. -/
def readLine? : List Char → Option (String × List Char)
  | '"' :: cs => (basic? cs).map fun (content, rest) => (String.ofList content, rest)
  | '\'' :: cs => (literal? cs).map fun (content, rest) => (String.ofList content, rest)
  | _ => none

def startsMulti : List Char → Bool
  | '"' :: '"' :: '"' :: _ => true
  | '\'' :: '\'' :: '\'' :: _ => true
  | _ => false

/-- Takes a string off the front of a text. -/
def read? : List Char → Option (String × List Char)
  | '"' :: '"' :: '"' :: cs =>
    (multiBasic? (dropLineBreak cs)).map fun (content, rest) => (String.ofList content, rest)
  | '\'' :: '\'' :: '\'' :: cs =>
    (multiLiteral? (dropLineBreak cs)).map fun (content, rest) => (String.ofList content, rest)
  | cs => readLine? cs

end Accessors.Toml.Quoted
