import Accessors.Log.Pattern.Mode
import Accessors.Text.Number

/-!
# Escapes

A backslash gives the characters after it a meaning of their own. They stand for a character, a set
of characters, or a place between two characters. `Escape.read?` reads what follows the backslash.
-/

namespace Accessors.Log.Pattern

/-- What a part of a pattern without parts of its own stands for. -/
inductive Atom
  | character (c : Char)
  | set
  /-- A place between two characters. -/
  | place
deriving DecidableEq, Repr, Inhabited

namespace Escape

/-- Takes so many digits in base sixteen off the front of a text. -/
def hexDigits? (mode : Mode) : Nat → List Char → Option (List Char × List Char)
  | 0, cs => some ([], cs)
  | count + 1, cs =>
    match mode.skip cs with
    | [] => none
    | c :: rest =>
      if (Text.digit? 16 c).isSome then
        (hexDigits? mode count rest).map fun (digits, rest) => (c :: digits, rest)
      else
        none

/-- Takes a character, written as so many digits in base sixteen, off the front of a text. -/
def hex? (mode : Mode) (count : Nat) (cs : List Char) : Option (Char × List Char) := do
  let (digits, rest) ← hexDigits? mode count cs
  let number ← Text.ofDigits? 16 digits
  if number.isValidChar then some (Char.ofNat number, rest) else none

/-- Whether a letter names a general category of characters. -/
def isCategory (c : Char) : Bool :=
  ['c', 'l', 'm', 'n', 'p', 's', 'z'].contains c.toLower

/-- Takes the letter of a general category off the front of a text. -/
def category? (mode : Mode) (cs : List Char) : Option (Atom × List Char) :=
  match mode.skip cs with
  | c :: rest => if mode.unicode && isCategory c then some (.set, rest) else none
  | [] => none

/-- The control character that a letter stands for. -/
def control? : Char → Option Char
  | 'a' => some '\x07'
  | 'f' => some '\x0c'
  | 'n' => some '\n'
  | 'r' => some '\r'
  | 't' => some '\t'
  | 'v' => some '\x0b'
  | _ => none

/-- What a single character behind a backslash stands for. The borders of words are known for ASCII
only, and a complement only for all of Unicode. -/
def single? (mode : Mode) (c : Char) : Option Atom :=
  if ['d', 's', 'w'].contains c then some .set
  else if ['D', 'S', 'W'].contains c then if mode.unicode then some .set else none
  else if ['A', 'z'].contains c then some .place
  else if ['b', 'B', '<', '>'].contains c then if mode.unicode then none else some .place
  else if c.toNat < 128 && !c.isAlphanum then some (.character c)
  else (control? c).map .character

/-- Takes what follows a backslash off the front of a text. A character of one byte that is not
ASCII is known only for all of Unicode. -/
def read? (mode : Mode) : List Char → Option (Atom × List Char)
  | [] => none
  | 'x' :: cs => do
    let (c, rest) ← hex? mode 2 cs
    if mode.unicode || c.toNat < 128 then some (.character c, rest) else none
  | 'u' :: cs => (hex? mode 4 cs).map fun (c, rest) => (.character c, rest)
  | 'U' :: cs => (hex? mode 8 cs).map fun (c, rest) => (.character c, rest)
  | 'p' :: cs => category? mode cs
  | 'P' :: cs => category? mode cs
  | c :: cs => (single? mode c).map (·, cs)

end Escape

end Accessors.Log.Pattern
