import Accessors.Log.Pattern.Mode

/-!
# Groups

A group has alternatives, and each of them has pieces. `Opening.read?` reads what follows an
opening parenthesis. `Group` keeps whether a repetition may come next in a group, and how deep its
parts stand in one another: a repetition, several pieces, several alternatives and a pair of
parentheses are a level each.
-/

namespace Accessors.Log.Pattern

/-! ## What a parenthesis opens -/

/-- What an opening parenthesis begins. -/
inductive Opening
  /-- Flags for the rest of the group that it stands in. -/
  | flags (mode : Mode)
  /-- A group, which is read in some mode. -/
  | group (mode : Mode)
  | named (name : List Char)
deriving DecidableEq, Repr, Inhabited

namespace Opening

def isName : List Char → Bool
  | [] => false
  | c :: cs =>
    (c == '_' || Unicode.isAlphabetic c) &&
      cs.all fun c => Unicode.isAlphanumeric c || ['_', '.', '[', ']'].contains c

/-- Takes the name of a group and the bracket behind it off the front of a text. -/
def name? (cs : List Char) : Option (Opening × List Char) :=
  let name := cs.takeWhile (· ≠ '>')
  match cs.drop name.length with
  | '>' :: rest => if isName name then some (.named name, rest) else none
  | _ => none

/-- Takes flags and the character that ends them off the front of a text. -/
def flags? (mode : Mode) (cs : List Char) : Option (Opening × List Char) :=
  let flags := cs.takeWhile fun c => c != ':' && c != ')'
  if areFlags flags then
    match cs.drop flags.length with
    | ':' :: rest => some (.group (mode.withFlags flags), rest)
    | ')' :: rest => if flags.isEmpty then none else some (.flags (mode.withFlags flags), rest)
    | _ => none
  else
    none

/-- Takes what follows an opening parenthesis off the front of a text. -/
def read? (mode : Mode) (cs : List Char) : Option (Opening × List Char) :=
  match mode.skip cs with
  | '?' :: 'P' :: '<' :: rest => name? rest
  | '?' :: '<' :: rest => name? rest
  | '?' :: rest => flags? mode rest
  | rest => some (.group mode, rest)

end Opening

/-! ## What is in a group -/

/-- A group as far as it has been read. -/
structure Group where
  /-- How deep the deepest alternative is that is complete, if there is one. -/
  alternatives : Option Nat := none
  /-- How many pieces the alternative has that is being read. -/
  pieces : Nat := 0
  /-- How deep the deepest of them is. -/
  depth : Nat := 0
  /-- How deep the last of them is, if it may be repeated. -/
  last : Option Nat := none
deriving DecidableEq, Repr, Inhabited

namespace Group

def add (group : Group) (depth : Nat) : Group :=
  { group with
    pieces := group.pieces + 1
    depth := max group.depth depth
    last := some depth }

/-- One more piece that cannot be repeated. -/
def addFlags (group : Group) : Group :=
  { group.add 0 with last := none }

/-- The group with its last piece repeated. -/
def repeated? (group : Group) : Option Group :=
  group.last.map fun last =>
    { group with depth := max group.depth (last + 1), last := some (last + 1) }

/-- How deep the alternatives are together. -/
def height (group : Group) : Nat :=
  let pieces := if group.pieces < 2 then group.depth else group.depth + 1
  match group.alternatives with
  | none => pieces
  | some alternatives => max alternatives pieces + 1

/-- The group at the start of its next alternative. -/
def nextAlternative (group : Group) : Group :=
  let pieces := if group.pieces < 2 then group.depth else group.depth + 1
  { alternatives := some (max (group.alternatives.getD 0) pieces) }

end Group

end Accessors.Log.Pattern
