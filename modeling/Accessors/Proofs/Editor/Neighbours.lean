import Accessors.Editor.OpenFile
import Accessors.Proofs.Files.Neighbours

/-!
# Files beside the file that is open

An edit of an open file is one save, and changes what that changes (`tree_insert`). It should change
nothing but the document, and it does not if the name of the sibling is free (`insert_frame_iff`).
A file of the user under that name is lost, though, and so is the one that a link under that name
leads to (`insert_strayLink`), unless the system keeps them.
-/

namespace Accessors.FileDesk

open Files.Tree (sibling)

theorem tree_insert (desk : FileDesk) (position : Text.Position) (fragments : List String) :
    (desk.insert position fragments).editor.tree =
      (desk.tree.save desk.file.target (desk.file.updated position fragments).toUTF8).2 := by
  rw [insert]
  split
  · rename_i fault tree hsave
    rw [hsave]
  · rename_i tree hsave
    rw [hsave]

/-- **An edit changes nothing but the document**, whether it can be saved or not, exactly if the
save does not come to write, if neither a file nor a link stands under the name of the sibling, or
if one stands there that cannot be taken away and what is written makes no difference. In any case
it reaches no further than to that name and to the place that it leads to. -/
theorem insert_frame_iff (desk : FileDesk) (position : Text.Position) (fragments : List String) :
    let after := (desk.insert position fragments).editor.tree
    ((∀ other, desk.tree.nameIn? desk.file.target ≠ .ok other →
        after.lookup? other = desk.tree.lookup? other) ↔
      (∃ fault, (desk.tree.placeOf? desk.file.target >>= desk.tree.modeAt?) = .error fault) ∨
        (∀ found entry, desk.tree.nameIn? (sibling desk.file.target) = .ok found →
          desk.tree.lookup? found = some entry → entry = .directory) ∨
        ∃ mode, (desk.tree.placeOf? desk.file.target >>= desk.tree.modeAt?) = .ok mode ∧
          desk.tree.KeepsSibling desk.file.target
            (desk.file.updated position fragments).toUTF8 mode) ∧
    ∀ other, desk.tree.nameIn? desk.file.target ≠ .ok other →
      desk.tree.nameIn? (sibling desk.file.target) ≠ .ok other →
      (∀ place, desk.tree.placeOf? (sibling desk.file.target) true = .ok place →
        place.location ≠ other) →
      after.lookup? other = desk.tree.lookup? other := by
  intro after
  have hafter : after = (desk.tree.save desk.file.target
      (desk.file.updated position fragments).toUTF8).2 := desk.tree_insert position fragments
  rw [hafter]
  refine ⟨Files.Tree.save_frame_iff, ?_⟩
  intro other htarget hsibling hplace
  exact Files.Tree.lookup?_save_of_ne (fun _ => htarget) hsibling hplace

/-- A desk with another file, and a link to it under the name of the sibling. -/
def strayLinkDesk : FileDesk where
  file :=
    { path := "Foo.ts"
      target := ["Foo.ts"]
      text := "one\n"
      ending := .lf
      cursor := ⟨1, 0⟩ }
  tree :=
    ((Files.Tree.put {} ["Foo.ts"] (.file "one\n".toUTF8 0o644)).put ["Bar.ts"]
      (.file "bar\n".toUTF8 0o644)).put ["Foo.ts.accessor-gen.tmp"] (.link "Bar.ts")

/-- **A link under the name of the sibling** is written through and becomes the document: the other
file has its bytes then, and there is no link any more where there was one. -/
theorem insert_strayLink :
    let after := (strayLinkDesk.insert ⟨1, 0⟩ ["two\n"]).editor.tree
    OpenFile.open? strayLinkDesk.tree "Foo.ts" ⟨1, 0⟩ = .ok strayLinkDesk.file ∧
      (strayLinkDesk.insert ⟨1, 0⟩ ["two\n"]).result = .ok () ∧
      strayLinkDesk.tree.nameIn? strayLinkDesk.file.target = .ok ["Foo.ts"] ∧
      strayLinkDesk.tree.lookup? ["Bar.ts"] = some (.file "bar\n".toUTF8 0o644) ∧
      after.lookup? ["Bar.ts"] = some (.file "one\ntwo\n".toUTF8 0o644) ∧
      strayLinkDesk.tree.lookup? ["Foo.ts.accessor-gen.tmp"] = some (.link "Bar.ts") ∧
      after.lookup? ["Foo.ts.accessor-gen.tmp"] = none ∧
      after.lookup? ["Foo.ts"] = some (.link "Bar.ts") :=
  ⟨by rfl, by rfl, by rfl, by rfl, by rfl, by rfl, by rfl, by rfl⟩

end Accessors.FileDesk
