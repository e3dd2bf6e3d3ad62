import Accessors.Unicode.Class

/-!
# How a pattern is read

A directive may ask for a field whose value fits a pattern. A pattern is a regular expression, and
flags in it decide how the text after them is read. Two of them matter for whether a text is a
pattern: the one for Unicode, and the one that lets white space and comments stand between parts.
-/

namespace Accessors.Log.Pattern

/-- How the text of a pattern is read at a place. -/
structure Mode where
  /-- Whether a set has characters of all of Unicode, and not of ASCII only. -/
  unicode : Bool := true
  /-- Whether white space and comments count for nothing. -/
  spaced : Bool := false
deriving DecidableEq, Repr, Inhabited

/-- The text without the white space and the comments at its start. A comment starts with a number
sign and ends with its line. -/
def dropRemarks (inComment : Bool) : List Char → List Char
  | [] => []
  | c :: cs =>
    if inComment then dropRemarks (c != '\n') cs
    else if c = '#' then dropRemarks true cs
    else if Unicode.isBlank c then dropRemarks false cs
    else c :: cs

/-- The first character that is neither white space nor the first number sign. -/
def glance? (pastSign : Bool) : List Char → Option Char
  | [] => none
  | c :: cs =>
    if Unicode.isBlank c then glance? pastSign cs
    else if c = '#' && !pastSign then glance? true cs
    else some c

namespace Mode

/-- The text from where its next part starts. -/
def skip (mode : Mode) (cs : List Char) : List Char :=
  if mode.spaced then dropRemarks false cs else cs

/-- The character that decides whether a hyphen in front of it makes a range. A comment is not
passed over as a whole. -/
def peek? (mode : Mode) (cs : List Char) : Option Char :=
  if mode.spaced then glance? false cs else cs.head?

/-- The mode with a flag set or cleared. -/
def withFlag (on : Bool) (mode : Mode) : Char → Mode
  | 'u' => { mode with unicode := on }
  | 'x' => { mode with spaced := on }
  | _ => mode

/-- The mode with some flags set, and those behind a hyphen cleared. -/
def withFlags (mode : Mode) (flags : List Char) : Mode :=
  let cleared := (flags.dropWhile (· ≠ '-')).drop 1
  cleared.foldl (withFlag false) ((flags.takeWhile (· ≠ '-')).foldl (withFlag true) mode)

end Mode

def isFlag (c : Char) : Bool :=
  ['i', 'm', 's', 'U', 'u', 'R', 'x'].contains c

/-- Whether a text is a list of flags: each stands there once, and a hyphen has flags behind it. -/
def areFlags (cs : List Char) : Bool :=
  cs.all (fun c => isFlag c || c == '-') && cs.Nodup && cs.getLast? != some '-'

end Accessors.Log.Pattern
