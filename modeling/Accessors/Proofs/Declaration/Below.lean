import Accessors.Proofs.Declaration.Block
import Accessors.Proofs.Text.Insertion

/-!
# Edits below an interface

All that is read of a document with a closed interface are the lines up to the one that closes it
(`closed_congr`). An edit further down leaves these lines as they are, in whatever column it is made
and whatever is put in, so the interface stays closed where it was and its properties stay the same
(`properties_insertAt_below`).
-/

namespace Accessors.Query

open Declaration Text

theorem closed_congr {query : Query} {declaration : String} {lines lines' : List String}
    {index : Nat} (hclosed : closingLine? (query.interface declaration) lines = some index)
    (h : lines'.take (index + 1) = lines.take (index + 1)) :
    closingLine? (query.interface declaration) lines' = some index ∧
      query.properties lines' declaration = query.properties lines declaration := by
  obtain ⟨block, after, rfl, hlength⟩ := closingLine?_eq_some_iff.1 hclosed
  rw [← hlength, List.take_left] at h
  obtain ⟨after', rfl⟩ : block.lines <+: lines' := h ▸ List.take_prefix _ _
  exact ⟨closingLine?_eq_some_iff.2 ⟨block, after', rfl, hlength⟩,
    by rw [block.properties_eq, block.properties_eq]⟩

/-- **An edit below an interface does not change what is found in the document.** -/
theorem properties_insertAt_below {query : Query} {declaration text : String} {index : Nat}
    (hclosed : closingLine? (query.interface declaration) (linesOf text) = some index)
    {position : Position} (hbelow : index < position.line.toNat)
    (hline : position.line.toNat ≤ text.toList.count '\n') (fragments : List String) :
    query.properties (linesOf (insertAt text position fragments)) declaration =
        query.properties (linesOf text) declaration ∧
      closingLine? (query.interface declaration) (linesOf (insertAt text position fragments)) =
        some index := by
  have htake := take_linesOf_insertAt (Nat.succ_le_of_lt hbelow) hline fragments
  exact (closed_congr hclosed htake).symm

/-- A second interface of that name, and a brace that would close the first one, are put in behind
an empty line. -/
theorem properties_insertAt_below_second :
    let query : Query := {}
    let text := "interface IFooData \x7b\r\n  id: number;\r\n\x7d\r\n\r\nlet a = 1;"
    let edited := insertAt text ⟨3, 7⟩ ["\x7d\n", "interface IFooData \x7b\n", "  a: string;\n"]
    closingLine? "IFooData" (linesOf text) = some 2 ∧
      query.properties (linesOf edited) "Foo" = query.properties (linesOf text) "Foo" ∧
      closingLine? "IFooData" (linesOf edited) = some 2 := by
  have hclosed : closingLine? (Query.interface {} "Foo")
      (linesOf "interface IFooData \x7b\r\n  id: number;\r\n\x7d\r\n\r\nlet a = 1;") = some 2 := by
    decide +kernel
  exact ⟨hclosed, @properties_insertAt_below {} "Foo" _ 2 hclosed ⟨3, 7⟩ (by decide) (by decide) _⟩

end Accessors.Query
