import Accessors.Toml.Quoted
import Accessors.Toml.Table

/-!
# TOML statements

A document is a list of statements, each on lines of its own: the header of a table, the header of
an element of an array of tables, or a key with its value. Blank lines and comments may stand
between them. `Statement.readAll?` reads a document and refuses what breaks the grammar.
-/

namespace Accessors.Toml

/-- A statement of a document. -/
inductive Statement
  | header (key : Key)
  /-- The header of one more element of an array of tables. -/
  | element (key : Key)
  | assign (key : Key) (value : Value)
deriving Inhabited

namespace Statement

/-! ## Space, comments and line ends -/

/-- The text without the spaces at its start. -/
def skipSpace (cs : List Char) : List Char :=
  cs.dropWhile Word.isSpace

/-- The text without the spaces, line breaks and comments at its start. -/
def skipFiller (inComment : Bool) : List Char → List Char
  | [] => []
  | '\n' :: cs => skipFiller false cs
  | '\r' :: '\n' :: cs => skipFiller false cs
  | c :: cs =>
    if inComment then
      if Quoted.isPlain c then skipFiller true cs else c :: cs
    else if c = '#' then
      skipFiller true cs
    else if Word.isSpace c then
      skipFiller false cs
    else
      c :: cs

/-- Takes a line break, or the end of the text, off its front. -/
def lineBreak? : List Char → Option (List Char)
  | [] => some []
  | '\n' :: cs => some cs
  | '\r' :: '\n' :: cs => some cs
  | _ => none

/-- Takes the end of a line off the front of a text: spaces, a comment if there is one, and a line
break. -/
def lineEnd? (cs : List Char) : Option (List Char) :=
  match skipSpace cs with
  | '#' :: comment => lineBreak? (comment.dropWhile Quoted.isPlain)
  | rest => lineBreak? rest

/-! ## Keys -/

/-- Whether a character may be part of a key without quotes. -/
def isKeyChar (c : Char) : Bool :=
  c.isAlphanum || c == '_' || c == '-'

/-- Takes one part of a key off the front of a text. -/
def keyPart? (cs : List Char) : Option (String × List Char) :=
  match cs.takeWhile isKeyChar with
  | [] => if Quoted.startsMulti cs then none else Quoted.readLine? cs
  | name => some (String.ofList name, cs.dropWhile isKeyChar)

/-- Takes parts of a key off the front of a text, with dots in between. -/
def keyParts? (cs : List Char) : Option (Key × List Char) :=
  match keyPart? cs with
  | none => none
  | some (name, rest) =>
    match skipSpace rest with
    | '.' :: more =>
      if (skipSpace more).length < cs.length then
        (keyParts? (skipSpace more)).map fun (key, rest) => (key.below name, rest)
      else
        none
    | _ => some (⟨[], name⟩, rest)
termination_by cs.length

/-- How deep a text may go: the parts of a key, and arrays and tables in braces in one another. -/
def maxDepth : Nat := 80

/-- Takes a key off the front of a text. -/
def key? (cs : List Char) : Option (Key × List Char) :=
  (keyParts? cs).filter fun (key, _) => key.names.length ≤ maxDepth

/-! ## Values -/

/-- Takes a string or a scalar without quotes off the front of a text. -/
def simple? (cs : List Char) : Option (Value × List Char) :=
  match cs with
  | '"' :: _ => (Quoted.read? cs).map fun (text, rest) => (.text text, rest)
  | '\'' :: _ => (Quoted.read? cs).map fun (text, rest) => (.text text, rest)
  | _ => Scalar.read? cs

/-- Takes the items of an array and its closing bracket off the front of a text, given how one item
is taken. -/
def items? (item? : List Char → Option (Value × List Char)) (cs : List Char) :
    Option (List Value × List Char) :=
  match skipFiller false cs with
  | ']' :: rest => some ([], rest)
  | start =>
    match item? start with
    | none => none
    | some (value, rest) =>
      match skipFiller false rest with
      | ']' :: rest => some ([value], rest)
      | ',' :: rest =>
        if rest.length < cs.length then
          (items? item? rest).map fun (values, rest) => (value :: values, rest)
        else
          none
      | _ => none
termination_by cs.length

/-- Takes a key, an equals sign and a value off the front of a text, given what is passed over
beside the equals sign and how a value is taken. -/
def pair? (skip : List Char → List Char) (value? : List Char → Option (Value × List Char))
    (cs : List Char) : Option ((Key × Value) × List Char) := do
  let (key, rest) ← key? cs
  match skip rest with
  | '=' :: rest =>
    let (value, rest) ← value? (skip rest)
    return ((key, value), rest)
  | _ => none

/-- Takes the pairs of a table in braces and its closing brace off the front of a text, given how
one pair is taken. -/
def members? (member? : List Char → Option ((Key × Value) × List Char)) (cs : List Char) :
    Option (List (Key × Value) × List Char) :=
  match skipFiller false cs with
  | '\x7d' :: rest => some ([], rest)
  | start =>
    match member? start with
    | none => none
    | some (pair, rest) =>
      match skipFiller false rest with
      | '\x7d' :: rest => some ([pair], rest)
      | ',' :: rest =>
        if rest.length < cs.length then
          (members? member? rest).map fun (pairs, rest) => (pair :: pairs, rest)
        else
          none
      | _ => none
termination_by cs.length

/-- Takes a value off the front of a text. The first argument is how deep it may go. A table in
braces may be spread over several lines. -/
def value? : Nat → List Char → Option (Value × List Char)
  | 0, cs => simple? cs
  | depth + 1, cs =>
    match cs with
    | '[' :: rest => (items? (value? depth) rest).map fun (items, rest) => (.array items, rest)
    | '\x7b' :: rest => do
      let (pairs, rest) ← members? (pair? (skipFiller false) (value? depth)) rest
      let entries ← Entries.ofPairs? pairs
      return (.table .inline entries, rest)
    | _ => simple? cs

/-! ## Statements -/

/-- Takes the key of a header off the front of a text. -/
def headerKey? (cs : List Char) : Option (Key × List Char) :=
  (key? (skipSpace cs)).map fun (key, rest) => (key, skipSpace rest)

/-- Takes a statement and the end of its line off the front of a text. -/
def read? (cs : List Char) : Option (Statement × List Char) := do
  match cs with
  | '[' :: '[' :: cs =>
    match ← headerKey? cs with
    | (key, ']' :: ']' :: rest) => return (.element key, ← lineEnd? rest)
    | _ => none
  | '[' :: cs =>
    match ← headerKey? cs with
    | (key, ']' :: rest) => return (.header key, ← lineEnd? rest)
    | _ => none
  | _ =>
    let ((key, value), rest) ← pair? skipSpace (value? maxDepth) cs
    return (.assign key value, ← lineEnd? rest)

def readFrom? (cs : List Char) : Option (List Statement) :=
  match skipFiller false cs with
  | [] => some []
  | start =>
    match read? start with
    | none => none
    | some (statement, rest) =>
      if rest.length < cs.length then
        (readFrom? rest).map (statement :: ·)
      else
        none
termination_by cs.length

/-- The statements of a document. A byte order mark at its start does not count. -/
def readAll? (text : String) : Option (List Statement) :=
  match text.toList with
  | '\uFEFF' :: cs => readFrom? cs
  | cs => readFrom? cs

end Statement

end Accessors.Toml
