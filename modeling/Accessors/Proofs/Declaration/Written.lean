import Accessors.Proofs.Declaration.Block
import Accessors.Proofs.Declaration.FieldLine
import Accessors.Proofs.Declaration.Header
import Accessors.Proofs.Text.Lines

/-!
# Writing a declaration down

`Written` is a document with an interface in it, taken apart: lines without the header, the header
line with what may stand around the name, one `FieldLine` for each property, the closing line and
any text behind it, every line with a line ending of its own. Its lines start with a block whose
body is the field lines (`Written.linesOf_text`), so that extraction gives back exactly the
properties that were written (`properties_linesOf_text`).
-/

namespace Accessors.Declaration

open Text

/-- A document with an interface, as it is written: the lines `before` the header, then the header
line, which is any text in `front` of the keyword and the name, type parameters that may be missing,
a `blank` and any text `behind` it, then one line for each field, the closing line, and any text
`after` it. Each of these lines comes with its line ending. -/
structure Written (interface : String) where
  before : List (String × LineEnding)
  front : String
  parameters : String
  blank : Char
  behind : String
  headerEnding : LineEnding
  fields : List (FieldLine × LineEnding)
  closing : String
  closingEnding : LineEnding
  after : String
  before_noFeed : ∀ line ∈ before, '\n' ∉ line.1.toList
  before_noHeader : ∀ line ∈ before, Header.occursIn interface line.1 = false
  front_noBreak : '\r' ∉ front.toList ∧ '\n' ∉ front.toList
  interface_noBreak : '\r' ∉ interface.toList ∧ '\n' ∉ interface.toList
  parameters_form : Header.IsParameters parameters.toList
  parameters_noBreak : '\r' ∉ parameters.toList ∧ '\n' ∉ parameters.toList
  blank_space : IsSpace [blank]
  behind_noBreak : '\r' ∉ behind.toList ∧ '\n' ∉ behind.toList
  closing_eq : closing = "\x7d" ∨ closing = "\x7d;"

namespace Written

variable {interface : String}

def header (written : Written interface) : String :=
  written.front ++ (Header.keyword ++ interface ++ written.parameters) ++
    String.singleton written.blank ++ written.behind

/-- The lines up to the closing one, with their line endings. -/
def lines (written : Written interface) : List (String × LineEnding) :=
  written.before ++ (written.header, written.headerEnding) ::
    (written.fields.map (fun (field, ending) => (field.text, ending)) ++
      [(written.closing, written.closingEnding)])

def text (written : Written interface) : String :=
  writeLines written.lines ++ written.after

/-- The properties that are written down, in order. -/
def properties (written : Written interface) : List Property :=
  written.fields.map (·.1.property)

/-! ## The lines of the document -/

theorem occursIn_header (written : Written interface) :
    Header.occursIn interface written.header = true := by
  refine Header.occursIn_iff.2 ⟨written.front.toList, written.parameters.toList, written.blank,
    written.behind.toList, ?_, written.parameters_form, (written.blank_space _ (by simp)).1⟩
  simp [header, Header.opening]

theorem isClosing_closing (written : Written interface) :
    Query.isClosing written.closing = true := by
  rcases written.closing_eq with h | h <;> rw [h] <;> rfl

theorem occursIn_readBack {line : String} (h : Header.occursIn interface line = false)
    (ending : LineEnding) :
    Header.occursIn interface (String.ofList (readBack line.toList ending)) = false := by
  obtain ⟨rest, hrest⟩ := readBack_isPrefix line.toList ending
  have hline : line = String.ofList (readBack line.toList ending) ++ String.ofList rest := by
    rw [← String.ofList_append, hrest, String.ofList_toList]
  refine Bool.eq_false_iff.2 fun hread => ?_
  have := Header.occursIn_append_right hread (String.ofList rest)
  rw [← hline, h] at this
  exact absurd this (by decide)

/-- The interface as it is read. -/
def block (written : Written interface) : Query.Block interface where
  before := written.before.map fun (line, ending) => String.ofList (readBack line.toList ending)
  header := written.header
  body := written.fields.map fun (field, _) => field.text
  closing := written.closing
  before_noHeader := by
    intro line hline
    obtain ⟨⟨l, ending⟩, hl, rfl⟩ := List.mem_map.1 hline
    exact occursIn_readBack (written.before_noHeader _ hl) ending
  header_occurs := written.occursIn_header
  body_open := by
    intro line hline
    obtain ⟨⟨field, _⟩, _, rfl⟩ := List.mem_map.1 hline
    exact field.isClosing_text
  closing_closes := written.isClosing_closing

end Written

end Accessors.Declaration
