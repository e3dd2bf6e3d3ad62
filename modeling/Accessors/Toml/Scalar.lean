import Accessors.Toml.Moment
import Accessors.Toml.Value
import Accessors.Toml.Word

/-!
# Scalars without quotes

Numbers, truth values, dates and times are words, which run up to a blank or a sign of the grammar.
`Scalar.ofWord?` tells what a word stands for. Digits may be grouped by single underscores, and a
decimal number has no leading zero. The grammar alone does not look at every character of an
integer: `Scalar.isOutline` tells which words it lets pass that stand for no number.
-/

namespace Accessors.Toml.Scalar

/-! ## Numbers -/

/-- The number that groups of digits stand for, with an underscore between two groups. -/
def natural? (base : Nat) (cs : List Char) : Option Nat :=
  let groups := Text.pieces '_' cs
  if groups.all (!·.isEmpty) then Text.ofDigits? base groups.flatten else none

/-- A decimal number without a leading zero. -/
def decimal? : List Char → Option Nat
  | ['0'] => some 0
  | '0' :: _ => none
  | cs => natural? 10 cs

/-- Takes a sign off the front of a text: whether it is a minus sign, and the rest. -/
def takeSign : List Char → Bool × List Char
  | '+' :: cs => (false, cs)
  | '-' :: cs => (true, cs)
  | cs => (false, cs)

/-- An integer: decimal with an optional sign, or without one in base sixteen, eight or two. -/
def integer? : List Char → Option Int
  | '0' :: 'x' :: cs => (natural? 16 cs).map Int.ofNat
  | '0' :: 'o' :: cs => (natural? 8 cs).map Int.ofNat
  | '0' :: 'b' :: cs => (natural? 2 cs).map Int.ofNat
  | cs =>
    let (negative, digits) := takeSign cs
    (decimal? digits).map fun number => if negative then -Int.ofNat number else Int.ofNat number

def isExponentMark (c : Char) : Bool :=
  c == 'e' || c == 'E'

/-- Whether a text is a decimal number with a fraction, an exponent or both. -/
def isFloat (cs : List Char) : Bool :=
  let unsigned := (takeSign cs).2
  let mantissa := unsigned.takeWhile (!isExponentMark ·)
  let exponent := unsigned.dropWhile (!isExponentMark ·)
  let exponentFits :=
    match exponent with
    | [] => true
    | _ :: digits => (natural? 10 (takeSign digits).2).isSome
  let mantissaFits :=
    match Text.pieces '.' mantissa with
    | [whole] => (decimal? whole).isSome && !exponent.isEmpty
    | [whole, fraction] => (decimal? whole).isSome && (natural? 10 fraction).isSome
    | _ => false
  exponentFits && mantissaFits

/-- Whether a character is a digit in some base. -/
def isAnyDigit (c : Char) : Bool :=
  (Text.digit? 16 c).isSome

/-- Whether a character keeps a word from being taken for an integer. -/
def isForeign (c : Char) : Bool :=
  c == ' ' || c == '.' || isExponentMark c

/-- Whether the grammar takes groups with underscores in between for an integer that goes on behind
its first group. That one is a decimal number other than zero, and a digit of some base stands on
either side of each underscore. Nothing else in the groups is looked at but foreign characters. -/
def isOutlineOf (first : List Char) (groups : List (List Char)) : Bool :=
  (decimal? first).any (· ≠ 0) && groups.all (·.head?.any isAnyDigit) &&
    groups.dropLast.all (·.getLast?.any isAnyDigit) && groups.flatten.all (!isForeign ·)

/-- Whether the grammar takes a word for an integer without looking at all of it: a base without
digits, or a word with underscores. -/
def isOutline (cs : List Char) : Bool :=
  cs = ['0', 'x'] || cs = ['0', 'o'] || cs = ['0', 'b'] ||
    match Text.pieces '_' (takeSign cs).2 with
    | first :: group :: groups => isOutlineOf first (group :: groups)
    | _ => false

/-- Whether a text is infinity or not a number, with an optional sign. -/
def isSpecialFloat (cs : List Char) : Bool :=
  let unsigned := (takeSign cs).2
  unsigned = ['i', 'n', 'f'] ∨ unsigned = ['n', 'a', 'n']

/-! ## Words -/

def ofWord? (cs : List Char) : Option Value :=
  if cs = ['t', 'r', 'u', 'e'] then some (.boolean true)
  else if cs = ['f', 'a', 'l', 's', 'e'] then some (.boolean false)
  else
    match integer? cs with
    | some number => some (.integer number)
    | none =>
      if isFloat cs || isSpecialFloat cs then some (.float (String.ofList cs))
      else if Moment.accepts cs then some (.moment (String.ofList cs))
      else if isOutline cs then some (.unreadable (String.ofList cs))
      else none

/-- Takes a scalar without quotes off the front of a text. -/
def read? (cs : List Char) : Option (Value × List Char) :=
  let (word, rest) := Word.take cs
  (ofWord? word).map (·, rest)

end Accessors.Toml.Scalar
