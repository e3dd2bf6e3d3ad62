import Accessors.Log.Pattern.Reader
import Accessors.Text.Split

/-!
# Fields

A directive may ask for a field. It names the field, and it may ask for a value as well, which is a
truth value, a number or a pattern.
-/

namespace Accessors.Log.Field

def dropSign : List Char → List Char
  | '+' :: cs => cs
  | '-' :: cs => cs
  | cs => cs

/-- Whether a text is an exponent of ten, or nothing. -/
def isExponent : List Char → Bool
  | [] => true
  | _ :: cs => (Text.decimal? (dropSign cs)).isSome

/-- Whether a text has digits, and a point anywhere beside them or no point. -/
def isMantissa (cs : List Char) : Bool :=
  let digits := cs.filter (· ≠ '.')
  cs.count '.' ≤ 1 && (Text.decimal? digits).isSome

/-- The names of the numbers that have no digits. -/
def numberNames : List String := ["inf", "infinity", "nan"]

def isNumber (cs : List Char) : Bool :=
  let unsigned := (dropSign cs).map Char.toLower
  numberNames.contains (String.ofList unsigned) ||
    isMantissa (unsigned.takeWhile (· ≠ 'e')) && isExponent (unsigned.dropWhile (· ≠ 'e'))

/-- Whether a directive may ask for a value. A truth value is a pattern too. -/
def isValue (cs : List Char) : Bool :=
  isNumber cs || Pattern.isValid cs

/-- Reads a field: its name, and the value that is asked for. What follows a second equals sign does
not count. -/
def read? (cs : List Char) : Option (List Char × Option (List Char)) :=
  match Text.pieces '=' cs with
  | [] => none
  | [name] => if name.isEmpty then none else some (name, none)
  | name :: value :: _ => if isValue value then some (name, some value) else none

end Accessors.Log.Field
