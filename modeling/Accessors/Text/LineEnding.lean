/-!
# Line endings

A document is read as having one of two line endings, the one of its first line break, and text
that goes into it is converted to that ending first.
-/

namespace Accessors.Text

/-- How the lines of a document end. -/
inductive LineEnding
  | lf
  | crlf
deriving DecidableEq, Repr, Inhabited

namespace LineEnding

/-- The characters of a line ending. -/
def chars : LineEnding → List Char
  | lf => ['\n']
  | crlf => ['\r', '\n']

def text (ending : LineEnding) : String :=
  String.ofList ending.chars

/-- A line ending as log messages show it, in quotes and with its characters escaped. -/
def quoted : LineEnding → String
  | lf => "\"\\n\""
  | crlf => "\"\\r\\n\""

/-- The ending of the first line break; a text without one counts as `lf`. -/
def ofChars : List Char → LineEnding
  | [] => lf
  | '\n' :: _ => lf
  | '\r' :: '\n' :: _ => crlf
  | _ :: cs => ofChars cs

/-- The line ending of a document. -/
def ofText (text : String) : LineEnding :=
  ofChars text.toList

/-- The text with a line feed in place of every carriage return and the line feed right behind it. A
carriage return with anything else behind it stays. -/
def unify : List Char → List Char
  | [] => []
  | '\r' :: '\n' :: cs => '\n' :: unify cs
  | c :: cs => c :: unify cs

/-- The text with every line feed replaced by the given ending. -/
def spread (ending : LineEnding) (cs : List Char) : List Char :=
  cs.flatMap fun c => if c = '\n' then ending.chars else [c]

/-- The text with every line break in the given ending. -/
def convert (ending : LineEnding) (text : String) : String :=
  String.ofList (ending.spread (unify text.toList))

theorem spread_append (ending : LineEnding) (cs ds : List Char) :
    ending.spread (cs ++ ds) = ending.spread cs ++ ending.spread ds := by
  simp [spread]

theorem spread_lf (cs : List Char) : lf.spread cs = cs := by
  induction cs with
  | nil => rfl
  | cons c cs ih =>
    rw [spread, List.flatMap_cons, ← spread, ih]
    split <;> simp_all [chars]

end LineEnding

end Accessors.Text
