import Accessors.Proofs.Editor.Ending
import Accessors.Proofs.Editor.FailedSave

/-!
# Files that are what the editor holds

What an editor holds of a file is what is in the file. `Held` says so for the tree as it is, and
what else has stayed since the editor started; an edit of a plan keeps it, whether it can be saved
or not (`Held.edit`), and so do runs (`Held.runs`). What follows from it is `Mirrored`: the path
reads as the text in the editor, the file has its mode, links and other files are what they were, no
sibling is left behind, and the path can be opened again to the same document (`mirrored_runs`).
-/

namespace Accessors

open Text

open Files.Tree (Reached sibling)

namespace FileDesk

variable {start desk : FileDesk} {path : String}

/-! ## The invariant -/

/-- Whether what an editor holds of a file that is open by a path is what is in the file, and all
else is as it was at the start. -/
structure Held (start : FileDesk) (path : String) (desk : FileDesk) : Prop where
  target : desk.file.target = start.file.target
  ending : desk.file.ending = .ofText desk.file.text
  resolved : desk.tree.resolve? path = .ok start.file.target
  reached : desk.tree.Reached start.file.target
  entry : ∃ bytes mode, start.tree.lookup? start.file.target = some (.file bytes mode) ∧
    desk.tree.lookup? start.file.target = some (.file desk.file.text.toUTF8 mode) ∧
    Files.Tree.isReadable mode = true
  others : ∀ other, other ≠ start.file.target → desk.tree.lookup? other = start.tree.lookup? other

theorem held_of_open? {cursor : Position}
    (hopen : OpenFile.open? start.tree path cursor = .ok start.file)
    (hhome : Files.Path.isAbsolute path = true ∨ start.tree.Reached start.tree.workingDirectory) :
    Held start path start := by
  obtain ⟨hread, -, -, hending⟩ := OpenFile.of_open? hopen
  obtain ⟨location, mode, hresolve, hentry, hreadable⟩ := Files.Tree.readText?_eq_ok_iff.1 hread
  obtain rfl := Except.ok.inj ((OpenFile.resolve?_of_open? hopen).symm.trans hresolve)
  exact
    { target := rfl
      ending := hending
      resolved := hresolve
      reached := (Files.Tree.resolve?_eq_ok_iff.1 hresolve).2.reached (Files.Tree.reached_start hhome)
      entry := ⟨_, mode, hentry, hentry, hreadable⟩
      others := fun _ _ => rfl }

section Run

variable (hfree : start.tree.lookup? (sibling start.file.target) = none)
include hfree

theorem Held.edit (h : Held start path desk) {plan : Plan} {declaration : String}
    {ps : List Property} {cursor : Position} (hfinds : plan.Finds desk declaration ps cursor)
    (hne : ps ≠ []) : Held start path ((plan.edit ps cursor).perform desk).editor := by
  obtain ⟨bytes, mode, hstart, hentry, hreadable⟩ := h.entry
  have hreached := h.reached
  have hfree' : desk.tree.lookup? (sibling start.file.target) = none :=
    (h.others _ (Files.Tree.sibling_ne _)).trans hfree
  obtain ⟨fault, -, hsave, hfile⟩ | ⟨hresult, hsave, hfile⟩ :=
    perform_cases (plan.edit ps cursor) desk
  · -- nothing has changed, neither here nor there
    rw [h.target] at hsave
    have halike := Files.Tree.alike_of_save_error
      (Files.Tree.hasNoSibling_of_free hreached hentry hfree') hsave
    refine ⟨?_, ?_, halike.retains.resolve?_eq h.resolved, hreached.retains halike.retains, ?_, ?_⟩
    · rw [hfile]
      exact h.target
    · rw [hfile]
      exact h.ending
    · rw [hfile]
      exact ⟨bytes, mode, hstart, by rw [halike.lookup?, hentry], hreadable⟩
    · intro other hother
      rw [halike.lookup?, h.others other hother]
  · rw [h.target] at hsave
    obtain ⟨-, -, hsaved, hothers⟩ := Files.Tree.lookup?_of_save_ok hreached hentry hfree' hsave
    have hretains := Files.Tree.retains_of_save_ok hreached hentry hfree' hsave
    refine ⟨?_, ?_, hretains.resolve?_eq h.resolved, hreached.retains hretains, ?_, ?_⟩
    · rw [hfile]
      exact h.target
    · rw [ofText_edit hfinds hne hresult h.ending, hfile]
    · rw [hfile]
      exact ⟨bytes, mode, hstart, hsaved, hreadable⟩
    · intro other hother
      rw [hothers other hother]
      exact h.others other hother

theorem Held.run (h : Held start path desk) (plan : Plan) :
    Held start path (plan.run desk).editor := by
  cases plan.course_run desk with
  | edited hfinds hne heditor _ =>
    rw [heditor]
    exact h.edit hfree hfinds hne
  | noProperties _ heditor _ => rwa [heditor]
  | noDocument _ heditor _ => rwa [heditor]
  | failed _ heditor _ => rwa [heditor]

theorem Held.runs (h : Held start path desk) (plans : List Plan) :
    Held start path (Plan.runs plans desk).2 := by
  induction plans generalizing desk with
  | nil => exact h
  | cons plan plans ih => exact ih (h.run hfree plan)

end Run

/-! ## What the invariant gives -/

/-- How the files around an editor are after runs on a file that is open by a path. -/
structure Mirrored (start : FileDesk) (path : String) (desk : FileDesk) : Prop where
  /-- The path reads as the text in the editor. -/
  read : desk.tree.readText? path = .ok desk.file.text
  /-- The file has its mode. -/
  mode : ∃ bytes mode, start.tree.lookup? start.file.target = some (.file bytes mode) ∧
    desk.tree.lookup? start.file.target = some (.file desk.file.text.toUTF8 mode)
  /-- Every link is the same link. -/
  link : ∀ location link, start.tree.lookup? location = some (.link link) →
    desk.tree.lookup? location = some (.link link)
  /-- Everything else is what it was. -/
  others : ∀ other, other ≠ start.file.target → desk.tree.lookup? other = start.tree.lookup? other
  /-- There is no sibling. -/
  sibling : desk.tree.lookup? (sibling start.file.target) = none
  /-- The path can be opened again, at any cursor, to the same text, line ending and lines. -/
  opened : ∀ cursor, ∃ file, OpenFile.open? desk.tree path cursor = .ok file ∧
    file.text = desk.file.text ∧ file.ending = desk.file.ending ∧
    Editor.lines? (FileDesk.mk file desk.tree) = Editor.lines? desk

theorem Held.mirrored (h : Held start path desk)
    (hfree : start.tree.lookup? (Files.Tree.sibling start.file.target) = none) :
    Mirrored start path desk := by
  obtain ⟨bytes, mode, hstart, hentry, hreadable⟩ := h.entry
  have hread : desk.tree.readText? path = .ok desk.file.text :=
    Files.Tree.readText?_eq_ok_iff.2 ⟨_, mode, h.resolved, hentry, hreadable⟩
  refine ⟨hread, ⟨bytes, mode, hstart, hentry⟩, ?_, h.others, ?_, ?_⟩
  · intro location link hlink
    have hne : location ≠ start.file.target := by
      rintro rfl
      cases hstart.symm.trans hlink
    rw [h.others location hne, hlink]
  · rw [h.others _ (Files.Tree.sibling_ne _), hfree]
  · intro cursor
    have hopen : OpenFile.open? desk.tree path cursor =
        .ok ⟨path, start.file.target, desk.file.text, .ofText desk.file.text, cursor⟩ := by
      rw [OpenFile.open?, hread, h.resolved]
    exact ⟨_, hopen, rfl, h.ending.symm, rfl⟩

/-- **What the editor holds is what is on disk**: if nothing stands beside a file under the name of
its sibling when it is opened, then after any runs, whether they could be saved or not, the path
reads as the text in the editor. A path that does not start at the root starts in the working
directory, which has to be one that its own names lead to. -/
theorem mirrored_runs {cursor : Position}
    (hopen : OpenFile.open? start.tree path cursor = .ok start.file)
    (hhome : Files.Path.isAbsolute path = true ∨ start.tree.Reached start.tree.workingDirectory)
    (hfree : start.tree.lookup? (Files.Tree.sibling start.file.target) = none)
    (plans : List Plan) : Mirrored start path (Plan.runs plans start).2 :=
  ((held_of_open? hopen hhome).runs hfree plans).mirrored hfree

/-- A desk with a file that others may not read and whose mode sets a group, opened through a link. -/
def linkedDesk : FileDesk where
  file :=
    { path := "Foo.ts"
      target := ["src", "Foo.ts"]
      text := crlfDocument
      ending := .crlf
      cursor := ⟨3, 0⟩ }
  tree :=
    (((Files.Tree.put {} ["src"] .directory).put ["src", "Foo.ts"]
      (.file crlfDocument.toUTF8 0o2640)).put ["Foo.ts"] (.link "src/Foo.ts"))

theorem mirrored_runs_linkedDesk :
    OpenFile.open? linkedDesk.tree "Foo.ts" ⟨3, 0⟩ = .ok linkedDesk.file ∧
      linkedDesk.tree.lookup? (Files.Tree.sibling linkedDesk.file.target) = none ∧
      (Plan.run {} linkedDesk).result = .ok (.inserted "Foo" 1 ⟨3, 0⟩) ∧
      Mirrored linkedDesk "Foo.ts" (Plan.runs [{}, {}] linkedDesk).2 := by
  have hopen : OpenFile.open? linkedDesk.tree "Foo.ts" ⟨3, 0⟩ = .ok linkedDesk.file := by rfl
  have hfree : linkedDesk.tree.lookup? (Files.Tree.sibling linkedDesk.file.target) = none := by rfl
  have hresult : (Plan.run {} linkedDesk).result = .ok (.inserted "Foo" 1 ⟨3, 0⟩) := by rfl
  exact ⟨hopen, hfree, hresult, mirrored_runs hopen (.inr .root) hfree [{}, {}]⟩

end FileDesk

end Accessors
