import Accessors.Unicode.Alphabetic
import Accessors.Unicode.Mark
import Accessors.Unicode.Number
import Accessors.Unicode.Recent

/-!
# Character classes

Three classes of characters decide how a document is read. `isBlank` is the property `White_Space`:
it is what trimming removes and what may follow a header. `isWord` is what may stand in a list of
type parameters; it knows the characters of Unicode 16. `isAlphanumeric` is what an affix may
consist of, besides the underscore; it knows those of Unicode 17. The two last classes overlap
without being equal: `²` is only alphanumeric, a combining accent only a word character.
-/

namespace Accessors.Unicode

/-- The characters with the property `White_Space`. -/
def whiteSpace : Ranges :=
  [(0x9, 0xD), (0x20, 0x20), (0x85, 0x85), (0xA0, 0xA0), (0x1680, 0x1680), (0x2000, 0x200A),
   (0x2028, 0x2029), (0x202F, 0x202F), (0x205F, 0x205F), (0x3000, 0x3000)]

/-- The characters of the general category `Connector_Punctuation`. -/
def connector : Ranges :=
  [(0x5F, 0x5F), (0x203F, 0x2040), (0x2054, 0x2054), (0xFE33, 0xFE34), (0xFE4D, 0xFE4F),
   (0xFF3F, 0xFF3F)]

/-- The characters with the property `Join_Control`. -/
def joinControl : Ranges :=
  [(0x200C, 0x200D)]

def isBlank (c : Char) : Bool :=
  whiteSpace.has c

/-- A word character: a letter, a mark, a decimal digit, a connector or a join control. -/
def isWord (c : Char) : Bool :=
  alphabetic.has c || mark.has c || decimalDigit.has c || connector.has c || joinControl.has c

def isAlphabetic (c : Char) : Bool :=
  alphabetic.has c || recentAlphabetic.has c

/-- A number of any kind: a decimal digit, a letter number or another number. -/
def isNumeric (c : Char) : Bool :=
  decimalDigit.has c || recentDigit.has c || letterNumber.has c || otherNumber.has c

def isAlphanumeric (c : Char) : Bool :=
  isAlphabetic c || isNumeric c

end Accessors.Unicode
