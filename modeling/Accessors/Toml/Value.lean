/-!
# TOML values

The values of a TOML document. A table remembers how it was written, because that decides what may
still be added to it. Floats and dates keep the text they were written as.
-/

namespace Accessors.Toml

/-- How a table came into a document. -/
inductive Origin
  /-- By a header of its own, or as the document itself. -/
  | header
  /-- On the way to the table of a header. -/
  | implied
  /-- On the way to the last part of a dotted key. -/
  | dotted
  /-- As a value in braces. -/
  | inline
deriving DecidableEq, Repr, Inhabited

/-- A TOML value. -/
inductive Value
  | text (text : String)
  /-- An integer of any size. -/
  | integer (number : Int)
  /-- An integer that has no digits, or other characters among its digits, as it is written. -/
  | unreadable (text : String)
  /-- A floating-point number, as it is written. -/
  | float (text : String)
  /-- A date, a time, or both, as it is written. -/
  | moment (text : String)
  | boolean (value : Bool)
  | array (items : List Value)
  | table (origin : Origin) (entries : List (String × Value))
  /-- An array of tables, each with a header of its own. -/
  | tables (elements : List (List (String × Value)))
deriving Inhabited

/-- The keys of a table and their values, in the order in which they appear. -/
abbrev Entries := List (String × Value)

/-- Why a text is not read as settings. -/
inductive Fault
  /-- The text breaks the grammar. -/
  | malformed
  /-- A key or a table is defined again or extended where it may not be. -/
  | redefined
  /-- A value is not of the type its key asks for. -/
  | mismatched
  /-- A number is too large to be held or cannot be read. -/
  | notHeld
deriving DecidableEq, Repr, Inhabited

def Fault.text : Fault → String
  | malformed => "the document breaks the grammar"
  | redefined => "a key or table is defined twice"
  | mismatched => "a value has the wrong type"
  | notHeld => "a number is too large or cannot be read"

end Accessors.Toml
