import Accessors.Text.Number

/-!
# Text without terminal control

`visible` writes the characters that a terminal may take as a command as escapes: five of the
control characters below U+0080 and all from U+0080 to U+009F. Other characters, line feeds among
them, stay as they are.
-/

namespace Accessors.Text

/-- A character that is safe on a terminal, or the escape in its place. -/
def visibleChar (c : Char) : List Char :=
  if c == '\x07' || c == '\x08' || c == '\x0c' || c == '\x1b' || c == '\x7f' then
    '\\' :: 'x' :: hexPair c.toNat
  else if 0x80 ≤ c.toNat && c.toNat ≤ 0x9f then
    ['\\', 'u', '\x7b'] ++ hexPair c.toNat ++ ['\x7d']
  else
    [c]

/-- The text with escapes in place of what a terminal may take as a command. -/
def visible (text : String) : String :=
  String.ofList (text.toList.flatMap visibleChar)

end Accessors.Text
