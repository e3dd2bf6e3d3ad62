/-!
# The lines of a document

A line ends at a line feed, or at a carriage return and line feed, which are not part of it. The
last line need not be ended, and a document that ends in a line break has no empty line after it.
-/

namespace Accessors.Text

/-- The lines of a text. A carriage return belongs to its line unless a line feed follows. -/
def lines : List Char → List (List Char)
  | [] => []
  | '\n' :: cs => [] :: lines cs
  | '\r' :: '\n' :: cs => [] :: lines cs
  | c :: cs =>
    match lines cs with
    | [] => [[c]]
    | l :: ls => (c :: l) :: ls

/-- The lines of a document. -/
def linesOf (text : String) : List String :=
  (lines text.toList).map String.ofList

theorem lines_nil : lines [] = [] := by
  rw [lines]

theorem lines_lineFeed (cs : List Char) : lines ('\n' :: cs) = [] :: lines cs := by
  rw [lines]

theorem lines_lineBreak (cs : List Char) : lines ('\r' :: '\n' :: cs) = [] :: lines cs := by
  rw [lines]

end Accessors.Text
