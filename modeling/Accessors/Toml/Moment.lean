import Accessors.Text.Number
import Accessors.Text.Split

/-!
# Dates and times

A date is a day of the calendar, a time has hours and minutes and may have seconds, and both may
stand together, with or without a time zone. `Moment.accepts` tells the words that are one of these.
-/

namespace Accessors.Toml.Moment

/-- The number that exactly so many digits stand for. -/
def fixed? (width : Nat) (cs : List Char) : Option Nat :=
  if cs.length = width then Text.ofDigits? 10 cs else none

def isLeapYear (year : Nat) : Bool :=
  year % 4 = 0 ∧ (year % 100 ≠ 0 ∨ year % 400 = 0)

def daysIn (year month : Nat) : Nat :=
  if month = 2 then (if isLeapYear year then 29 else 28)
  else if month = 4 ∨ month = 6 ∨ month = 9 ∨ month = 11 then 30
  else 31

/-- Whether a text is a day of the calendar, as in `1979-05-27`. -/
def isDate (cs : List Char) : Bool :=
  match Text.pieces '-' cs with
  | [year, month, day] =>
    match fixed? 4 year, fixed? 2 month, fixed? 2 day with
    | some y, some m, some d => 1 ≤ m && m ≤ 12 && 1 ≤ d && d ≤ daysIn y m
    | _, _, _ => false
  | _ => false

/-- Whether a text is a number of exactly two digits up to a limit. -/
def isTwoDigits (most : Nat) (cs : List Char) : Bool :=
  match fixed? 2 cs with
  | some number => number ≤ most
  | none => false

/-- Whether a text is a number of seconds, with or without a fraction. A minute may have a leap
second. -/
def isSeconds (cs : List Char) : Bool :=
  match Text.pieces '.' cs with
  | [whole] => isTwoDigits 60 whole
  | [whole, fraction] =>
    isTwoDigits 60 whole && !fraction.isEmpty && fraction.all (Text.digit? 10 · |>.isSome)
  | _ => false

/-- Whether a text is a time of the day, as in `07:32` and `07:32:00.5`. -/
def isTime (cs : List Char) : Bool :=
  match Text.pieces ':' cs with
  | [hour, minute] => isTwoDigits 23 hour && isTwoDigits 59 minute
  | [hour, minute, second] => isTwoDigits 23 hour && isTwoDigits 59 minute && isSeconds second
  | _ => false

/-- Whether a text is a time zone: nothing, `Z`, or an offset such as `-07:00`. -/
def isZone : List Char → Bool
  | [] => true
  | ['Z'] => true
  | ['z'] => true
  | c :: cs =>
    (c == '+' || c == '-') &&
      match Text.pieces ':' cs with
      | [hour, minute] => isTwoDigits 23 hour && isTwoDigits 59 minute
      | _ => false

def isZoneMark (c : Char) : Bool :=
  c == 'Z' || c == 'z' || c == '+' || c == '-'

def dateLength : Nat := 10

/-- Whether a text is a date, a time, or a date and a time with or without a time zone. -/
def accepts (cs : List Char) : Bool :=
  isTime cs ||
    isDate (cs.take dateLength) &&
      match cs.drop dateLength with
      | [] => true
      | mark :: time =>
        (mark == 'T' || mark == 't' || mark == ' ') &&
          isTime (time.takeWhile (!isZoneMark ·)) && isZone (time.dropWhile (!isZoneMark ·))

end Accessors.Toml.Moment
