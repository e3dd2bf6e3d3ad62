import Accessors.Toml.Scalar

/-!
# Numbers that are not held

The grammar sets no limit to a number, but a reader holds an integer in 128 bits and a float in 64.
`Value.isHeld` tells whether all numbers in a value are held: an integer may have a sign or be
unsigned, and a float may lose digits but may not become infinite. A float that is written as
infinity is held, and an integer that cannot be read is not.
-/

namespace Accessors.Toml

namespace Scalar

/-- Whether an integer fits into 128 bits, with or without a sign. -/
def isHeldInteger : Int → Bool
  | .ofNat number => number < Nat.pow 2 128
  | .negSucc number => number < Nat.pow 2 127

/-- The least number that rounds to infinity. It lies half a step above the largest float, which is
`2 ^ 1024 - 2 ^ 971`. -/
def floatLimit : Nat := Nat.pow 2 1024 - Nat.pow 2 970

def floatLimitDigits : Nat := 309

/-- Whether the number `digits * 10 ^ exponent` is below `floatLimit`. The number of digits decides
unless it is that of the limit. -/
def isBelowFloatLimit (digits : List Char) (exponent : Int) : Bool :=
  let digits := digits.dropWhile (· == '0')
  let length : Int := digits.length + exponent
  match Text.ofDigits? 10 digits with
  | none => false
  | some number =>
    if number = 0 || length < floatLimitDigits then true
    else if floatLimitDigits < length then false
    else number * Nat.pow 10 exponent.toNat < floatLimit * Nat.pow 10 (-exponent).toNat

/-- Whether a float, as it is written, does not round to infinity. -/
def isHeldFloat (text : String) : Bool :=
  let unsigned := (takeSign (text.toList.filter (· ≠ '_'))).2
  let mantissa := unsigned.takeWhile (!isExponentMark ·)
  let (negative, power) := takeSign ((unsigned.dropWhile (!isExponentMark ·)).drop 1)
  let fraction := (mantissa.dropWhile (· ≠ '.')).drop 1
  let exponent := Int.ofNat ((Text.ofDigits? 10 power).getD 0)
  isSpecialFloat text.toList ||
    isBelowFloatLimit (mantissa.filter (· ≠ '.'))
      ((if negative then -exponent else exponent) - fraction.length)

end Scalar

mutual

/-- Whether all numbers in a value are held. -/
def Value.isHeld : Value → Bool
  | .integer number => Scalar.isHeldInteger number
  | .unreadable _ => false
  | .float text => Scalar.isHeldFloat text
  | .array items => Value.areHeld items
  | .table _ entries => Entries.areHeld entries
  | .tables elements => Entries.allHeld elements
  | .text _ => true
  | .moment _ => true
  | .boolean _ => true

def Value.areHeld : List Value → Bool
  | [] => true
  | value :: values => value.isHeld && Value.areHeld values

def Entries.areHeld : List (String × Value) → Bool
  | [] => true
  | (_, value) :: entries => value.isHeld && Entries.areHeld entries

def Entries.allHeld : List (List (String × Value)) → Bool
  | [] => true
  | entries :: elements => Entries.areHeld entries && Entries.allHeld elements

end

end Accessors.Toml
