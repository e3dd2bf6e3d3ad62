import Accessors.Text.Number

/-!
# Faults in a JSON text

A fault has a reason, and the line and the column it was met at if they are known; both are counted
from one. `Fault.text` writes the place behind the reason and `Fault.ofText` reads it back from
there. A place in line zero is no place.
-/

namespace Accessors.Json

/-- Why a JSON text could not be read or written. -/
structure Fault where
  reason : String
  /-- The line and the column. -/
  place : Option (Nat × Nat) := none
deriving DecidableEq, Repr, Inhabited

namespace Fault

def lineMark : String := " at line "

def columnMark : String := " column "

def text (fault : Fault) : String :=
  match fault.place with
  | none => fault.reason
  | some (line, column) =>
    fault.reason ++ lineMark ++ toString line ++ columnMark ++ toString column

/-- Takes a number of 64 bits and the mark in front of it off the end of a text. -/
def takeLast? (mark : String) (cs : List Char) : Option (List Char × Nat) := do
  let front := (cs.reverse.dropWhile Char.isDigit).reverse
  let number ← Text.decimal? (cs.drop front.length)
  let rest ← mark.toList.isSuffixOf? front
  if number < UInt64.size then some (rest, number) else none

/-- Takes a line and a column off the end of a text. -/
def takePlace? (cs : List Char) : Option (List Char × Nat × Nat) := do
  let (cs, column) ← takeLast? columnMark cs
  let (cs, line) ← takeLast? lineMark cs
  return (cs, line, column)

/-- The fault that a text is about. -/
def ofText (text : String) : Fault :=
  match takePlace? text.toList with
  | none => { reason := text }
  | some (reason, 0, _) => { reason := String.ofList reason }
  | some (reason, line, column) => { reason := String.ofList reason, place := some (line, column) }

end Fault

end Accessors.Json
