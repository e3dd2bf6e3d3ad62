import Accessors.Log.Pattern.Escape

/-!
# Sets in brackets

A set in brackets has characters, ranges, named sets and sets in brackets as its members, and sets
may be combined by operators. `Bracket.read?` reads what follows the opening bracket. It answers how
deep the parts stand in one another: several members, an operator and a pair of brackets are a level
each.
-/

namespace Accessors.Log.Pattern.Bracket

/-! ## Members -/

/-- The members of a set as far as they have been read. -/
structure Members where
  /-- How deep the operand of the last operator is that stands in front of it. -/
  operand : Option Nat := none
  /-- How many members there are behind it. -/
  count : Nat := 0
  /-- How deep the deepest of them is. -/
  depth : Nat := 0
  /-- Whether there are only hyphens yet. A hyphen counts as a character there. -/
  atStart : Bool := true
deriving DecidableEq, Repr, Inhabited

namespace Members

/-- How deep the members are together. -/
def height (members : Members) : Nat :=
  let union := if members.count < 2 then members.depth else members.depth + 1
  match members.operand with
  | none => union
  | some operand => max operand union + 1

def add (members : Members) (depth : Nat) : Members :=
  { members with
    count := members.count + 1
    depth := max members.depth depth
    atStart := false }

def addHyphen (members : Members) : Members :=
  { members.add 0 with atStart := true }

/-- The members as the operand of an operator. -/
def combine (members : Members) : Members :=
  { operand := some members.height, atStart := false }

end Members

/-! ## Tokens -/

/-- A part of a set in brackets. -/
inductive Token
  /-- A member without members of its own. -/
  | member
  /-- A hyphen at the start. -/
  | hyphen
  | operator
  /-- The beginning of a set in brackets. -/
  | opening
  | closing
deriving DecidableEq, Repr, Inhabited

/-- The names of the sets that are written between colons. -/
def setNames : List String :=
  ["alnum", "alpha", "ascii", "blank", "cntrl", "digit", "graph", "lower", "print", "punct",
   "space", "upper", "word", "xdigit"]

/-- Takes a named set off the front of a text behind its opening bracket: whether it stands for its
complement, and the rest. -/
def named? : List Char → Option (Bool × List Char)
  | ':' :: cs =>
    let (complement, cs) :=
      match cs with
      | '^' :: cs => (true, cs)
      | cs => (false, cs)
    let name := cs.takeWhile (· ≠ ':')
    match cs.drop name.length with
    | ':' :: ']' :: rest =>
      if setNames.contains (String.ofList name) then some (complement, rest) else none
    | _ => none
  | _ => none

/-- Takes a caret, which makes a set stand for its complement, off the front of a text if there is
one. -/
def caret? (mode : Mode) (cs : List Char) : Option (List Char) :=
  match mode.skip cs with
  | '^' :: rest => if mode.unicode then some rest else none
  | rest => some rest

/-- Takes a character or an escape off the front of a text. -/
def item? (mode : Mode) : List Char → Option (Atom × List Char)
  | [] => none
  | '\\' :: cs => Escape.read? mode cs
  | c :: cs => some (.character c, cs)

/-- Whether an atom may be a member of a set. -/
def isMember (mode : Mode) : Atom → Bool
  | .character c => mode.unicode || c.toNat < 128
  | .set => true
  | .place => false

/-- Whether two atoms are the first and the last character of a range. -/
def isRange (mode : Mode) : Atom → Atom → Bool
  | .character first, .character last =>
    isMember mode (.character first) && isMember mode (.character last) && first ≤ last
  | _, _ => false

/-- Takes a character, a range or a set without brackets off the front of a text. -/
def member? (mode : Mode) (cs : List Char) : Option (List Char) := do
  let (first, rest) ← item? mode cs
  match mode.skip rest with
  | '-' :: more =>
    let next := mode.peek? more
    if next = some ']' ∨ next = some '-' then
      if isMember mode first then some ('-' :: more) else none
    else
      let (last, rest) ← item? mode (mode.skip more)
      if isRange mode first last then some rest else none
  | rest => if isMember mode first then some rest else none

/-- Takes a part of a set off the front of a text. A closing bracket right at the start counts as a
character. -/
def token? (mode : Mode) (members : Members) (cs : List Char) : Option (Token × List Char) :=
  match mode.skip cs with
  | ']' :: rest =>
    if members.atStart && members.count = 0 then some (.member, rest) else some (.closing, rest)
  | '[' :: rest =>
    match named? rest with
    | some (complement, rest) =>
      if complement && !mode.unicode then none else some (.member, rest)
    | none => (caret? mode rest).map (.opening, ·)
  | '-' :: rest =>
    if members.atStart then some (.hyphen, rest)
    else if rest.head? = some '-' then some (.operator, rest.tail)
    else (member? mode ('-' :: rest)).map (.member, ·)
  | '&' :: '&' :: rest => some (.operator, rest)
  | '~' :: '~' :: rest => some (.operator, rest)
  | rest => (member? mode rest).map (.member, ·)

/-- Takes the members that are missing and the closing bracket off the front of a text. -/
def readFrom? (mode : Mode) (members : Members) (cs : List Char) : Option (Nat × List Char) :=
  match token? mode members cs with
  | none => none
  | some (token, rest) =>
    if rest.length < cs.length then
      match token with
      | .member => readFrom? mode (members.add 0) rest
      | .hyphen => readFrom? mode members.addHyphen rest
      | .operator => readFrom? mode members.combine rest
      | .closing => some (members.height + 1, rest)
      | .opening =>
        match readFrom? mode {} rest with
        | none => none
        | some (depth, rest) =>
          if rest.length < cs.length then readFrom? mode (members.add depth) rest else none
    else
      none
termination_by cs.length

/-- Takes a set off the front of a text behind its opening bracket. -/
def read? (mode : Mode) (cs : List Char) : Option (Nat × List Char) :=
  (caret? mode cs).bind (readFrom? mode {})

end Accessors.Log.Pattern.Bracket
