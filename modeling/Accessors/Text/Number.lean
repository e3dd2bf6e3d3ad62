/-!
# Numbers written in digits

`ofDigits?` reads a number in a base up to sixteen and `hexPair` writes one below 256 in base
sixteen. Digits above nine are letters, in either case when they are read and small when they are
written.
-/

namespace Accessors.Text

/-- The value of a digit in a base up to sixteen. -/
def digit? (base : Nat) (c : Char) : Option Nat :=
  let value? :=
    if '0' ≤ c ∧ c ≤ '9' then some (c.toNat - '0'.toNat)
    else if 'a' ≤ c ∧ c ≤ 'f' then some (c.toNat - 'a'.toNat + 10)
    else if 'A' ≤ c ∧ c ≤ 'F' then some (c.toNat - 'A'.toNat + 10)
    else none
  value?.filter (· < base)

/-- The number that digits stand for; without a digit it is zero. -/
def ofDigits? (base : Nat) (cs : List Char) : Option Nat :=
  cs.foldl (fun number? c => do return (← number?) * base + (← digit? base c)) (some 0)

/-- The number that decimal digits stand for, of which there is at least one. -/
def decimal? (cs : List Char) : Option Nat :=
  if cs.isEmpty then none else ofDigits? 10 cs

/-- The number that so many digits in base sixteen stand for. -/
def hexOfWidth? (width : Nat) (cs : List Char) : Option Nat :=
  if cs.length = width then ofDigits? 16 cs else none

/-- A number below 256 as two digits in base sixteen. -/
def hexPair (number : Nat) : List Char :=
  [Nat.digitChar (number / 16), Nat.digitChar (number % 16)]

end Accessors.Text
