import Accessors.Toml.Statement

/-!
# TOML documents

A document is read in two steps: its text into statements, and the statements into the table they
make up. The keys under a header go into the table of that header.
-/

namespace Accessors.Toml

/-- A document as far as it has been read. -/
structure Draft where
  entries : Entries := []
  /-- The names that lead to the table of the last header. -/
  current : List String := []

namespace Draft

def extend? (draft : Draft) : Statement → Option Draft
  | .header key => do
    let edit := fun _ entries => Entries.openTable key.last entries
    let entries ← Entries.change .header edit key.parents .header draft.entries
    return { entries, current := key.names }
  | .element key => do
    let edit := fun _ entries => Entries.openElement key.last entries
    let entries ← Entries.change .header edit key.parents .header draft.entries
    return { entries, current := key.names }
  | .assign key value => do
    let edit := fun origin entries => Entries.assign key value origin entries
    let entries ← Entries.change .back edit draft.current .header draft.entries
    return { draft with entries }

end Draft

/-- The table that statements make up. -/
def Entries.ofStatements? (statements : List Statement) : Option Entries :=
  (statements.foldlM Draft.extend? {}).map Draft.entries

def parse (text : String) : Except Fault Entries :=
  match Statement.readAll? text with
  | none => .error .malformed
  | some statements =>
    match Entries.ofStatements? statements with
    | none => .error .redefined
    | some entries => .ok entries

end Accessors.Toml
