import Accessors.Proofs.Editor.OpenFile
import Accessors.Proofs.Files.Neighbours

/-!
# Edits that cannot be saved

An edit of an open file that ends in an error leaves the document as it was, and the file as well
unless the name of its sibling is taken: then the file may have been written by way of the sibling
before a later step of the save failed, or have been taken away as the sibling. `Aftermath` says
exactly when. It holds whatever the files around the editor have become before and whichever step of
the save has failed, for an edit by itself, for a run of a plan and for the command that runs one
(`aftermath_of_error`), since a run fails only where its one edit does or before it makes one
(`Plan.Course.of_error`). Documents are lost that way (`perform_lost`).
-/

namespace Accessors

theorem Plan.Course.of_error {σ : Type} [Editor σ] {plan : Plan} {editor : σ}
    {response : Response σ Outcome} (h : plan.Course editor response) {error : Error}
    (herror : response.result = .error error) :
    (∃ declaration ps cursor, plan.Finds editor declaration ps cursor ∧ ps ≠ [] ∧
        ((plan.edit ps cursor).perform editor).result = .error error ∧
        response.editor = ((plan.edit ps cursor).perform editor).editor) ∨
      plan.Fails editor error ∧ response.editor = editor := by
  cases h with
  | @edited declaration ps cursor hfinds hne heditor hresult =>
    rw [herror] at hresult
    exact .inl ⟨declaration, ps, cursor, hfinds, hne, map_eq_error_iff.1 hresult.symm, heditor⟩
  | noProperties _ _ hresult => cases herror.symm.trans hresult
  | noDocument _ _ hresult => cases herror.symm.trans hresult
  | failed hfails heditor hresult =>
    obtain rfl := Except.error.inj (herror.symm.trans hresult)
    exact .inr ⟨hfails, heditor⟩

namespace FileDesk

/-- What there is after an edit of an open file that ends in an error. -/
structure Aftermath (desk : FileDesk) (edit : Edit) (after : FileDesk) : Prop where
  /-- The text, the line ending and the cursor are the same. -/
  file : after.file = desk.file
  /-- The target leads to the same file with the same bytes and the same mode exactly if the file was
  not written to by way of the sibling, or with what was in it already, and the target leads there
  without the sibling that was taken away. -/
  kept_iff : ∀ location bytes mode,
    desk.tree.placeOf? desk.file.target = .ok (.occupied location) →
    desk.tree.lookup? location = some (.file bytes mode) →
    (after.tree.placeOf? desk.file.target = .ok (.occupied location) ∧
        after.tree.lookup? location = some (.file bytes mode) ↔
      ((desk.file.updated edit.position edit.fragments).toUTF8 = bytes ∨
          ¬ desk.tree.Overwrites desk.file.target location) ∧
        ∀ found, desk.tree.Discards desk.file.target found → found ≠ location ∧
          (desk.tree.erase found).placeOf? desk.file.target = .ok (.occupied location))
  /-- Nothing has changed but under the name of the sibling and where it led to. -/
  others : ∀ other, desk.tree.nameIn? (Files.Tree.sibling desk.file.target) ≠ .ok other →
    (∀ place, desk.tree.placeOf? (Files.Tree.sibling desk.file.target) true = .ok place →
      place.location ≠ other) →
    after.tree.lookup? other = desk.tree.lookup? other
  /-- With neither a file nor a link under the name of the sibling, nothing has changed at all. -/
  alike : desk.tree.HasNoSibling desk.file.target → desk.tree.Alike after.tree

/-- What there is after a run of a plan that ends in an error: everything, if it made no edit. -/
def AfterRun (desk : FileDesk) (plan : Plan) (after : FileDesk) : Prop :=
  after = desk ∨ ∃ declaration ps cursor, plan.Finds desk declaration ps cursor ∧ ps ≠ [] ∧
    desk.Aftermath (plan.edit ps cursor) after

theorem perform_cases (edit : Edit) (desk : FileDesk) :
    (∃ fault, (edit.perform desk).result = .error (.file fault) ∧
        desk.tree.save desk.file.target
            (desk.file.updated edit.position edit.fragments).toUTF8 =
          (.error fault, (edit.perform desk).editor.tree) ∧
        (edit.perform desk).editor.file = desk.file) ∨
      (edit.perform desk).result = .ok () ∧
        desk.tree.save desk.file.target
            (desk.file.updated edit.position edit.fragments).toUTF8 =
          (.ok (), (edit.perform desk).editor.tree) ∧
        (edit.perform desk).editor.file =
          { desk.file with text := desk.file.updated edit.position edit.fragments } := by
  simp only [Edit.perform, Editor.insert, insert]
  split
  · rename_i fault tree hsave
    exact .inl ⟨fault, rfl, hsave, rfl⟩
  · rename_i tree hsave
    exact .inr ⟨rfl, hsave, rfl⟩

theorem aftermath_perform {desk : FileDesk} {edit : Edit} {error : Error}
    (h : (edit.perform desk).result = .error error) :
    desk.Aftermath edit (edit.perform desk).editor := by
  obtain ⟨fault, -, hsave, hfile⟩ | ⟨hresult, -⟩ := perform_cases edit desk
  · refine ⟨hfile, ?_, ?_, fun hnone => Files.Tree.alike_of_save_error hnone hsave⟩
    · intro location bytes mode hplace hentry
      have hiff := Files.Tree.leads_of_save_error_iff hplace hentry hsave
        (Files.Tree.leads_of_visit? hplace)
      simpa only [Files.Tree.placeOf?_eq_ok_iff] using hiff
    · intro other hsibling hplace
      have hfailed : (desk.tree.save desk.file.target
          (desk.file.updated edit.position edit.fragments).toUTF8).1 ≠ .ok () := by
        rw [hsave]
        simp
      have hsame := Files.Tree.lookup?_save_of_ne (absurd · hfailed) hsibling hplace
      rwa [hsave] at hsame
  · cases hresult.symm.trans h

/-- **What a failed save leaves of the document and the file**, whatever the files around the editor
are like, be it that an edit fails by itself, as part of a run or of the command that runs a plan. A
run that fails without an edit leaves everything. -/
theorem aftermath_of_error (desk : FileDesk) :
    (∀ (edit : Edit) (error : Error), (edit.perform desk).result = .error error →
      desk.Aftermath edit (edit.perform desk).editor) ∧
    (∀ (plan : Plan) (error : Error), (plan.run desk).result = .error error →
      desk.AfterRun plan (plan.run desk).editor) ∧
    ∀ (registry : Registry FileDesk) (plan : Plan) (error : Error),
      ((registry.install plan).run Registry.generateCommand desk).result = .error error →
      desk.AfterRun plan ((registry.install plan).run Registry.generateCommand desk).editor := by
  have hcourse : ∀ (plan : Plan) (response : Response FileDesk Outcome) (error : Error),
      plan.Course desk response → response.result = .error error →
      desk.AfterRun plan response.editor := by
    intro plan response error h herror
    obtain ⟨declaration, ps, cursor, hfinds, hne, hedit, heditor⟩ | ⟨-, heditor⟩ :=
      h.of_error herror
    · rw [heditor]
      exact .inr ⟨declaration, ps, cursor, hfinds, hne, aftermath_perform hedit⟩
    · exact .inl heditor
  refine ⟨fun edit error h => aftermath_perform h, ?_, ?_⟩
  · intro plan error h
    exact hcourse plan _ error (plan.course_run desk) h
  · intro registry plan error h
    exact hcourse plan _ error (plan.course_command registry desk) h

/-- A desk with a directory in the place of the sibling, which no save can get past. -/
def blockedDesk : FileDesk where
  file := (fooDesk crlfDocument .crlf).file
  tree := (fooDesk crlfDocument .crlf).tree.put ["Foo.ts.accessor-gen.tmp"] .directory

theorem aftermath_of_error_blockedDesk :
    let edit : Edit := ⟨⟨1, 0⟩, ["  // a\n"]⟩
    let command := Registry.run (Registry.install {} {}) Registry.generateCommand blockedDesk
    ((edit.perform blockedDesk).result = .error (.file .isDirectory) ∧
        (edit.perform blockedDesk).editor.tree.lookup? ["Foo.ts"] =
          some (.file crlfDocument.toUTF8 0o644)) ∧
      (Plan.run {} blockedDesk).result = .error (.file .isDirectory) ∧
      command.result = .error (.file .isDirectory) ∧
      blockedDesk.AfterRun {} command.editor := by
  obtain ⟨hedits, -, hcommands⟩ := aftermath_of_error blockedDesk
  have hedit : (Edit.perform ⟨⟨1, 0⟩, ["  // a\n"]⟩ blockedDesk).result =
      .error (.file .isDirectory) := by rfl
  have hrun : (Plan.run {} blockedDesk).result = .error (.file .isDirectory) := by rfl
  have hcommand : (Registry.run (Registry.install {} {}) Registry.generateCommand
      blockedDesk).result = .error (.file .isDirectory) := by rfl
  have hnone : blockedDesk.tree.HasNoSibling blockedDesk.file.target := by
    intro found entry hname hentry
    obtain rfl : ["Foo.ts.accessor-gen.tmp"] = found := Except.ok.inj hname
    exact (Option.some.inj hentry).symm
  have hkept := ((hedits _ _ hedit).alike hnone).lookup? ["Foo.ts"]
  exact ⟨⟨hedit, hkept⟩, hrun, hcommand, hcommands {} {} _ hcommand⟩

/-! ## Documents that are lost -/

/-- A desk whose file was replaced from outside by a link to one that may not be written, under the
name of the sibling. -/
def replacedDesk : FileDesk where
  file := (fooDesk crlfDocument .crlf).file
  tree :=
    (Files.Tree.put {} ["Foo.ts.accessor-gen.tmp"] (.file crlfDocument.toUTF8 0o444)).put
      ["Foo.ts"] (.link "Foo.ts.accessor-gen.tmp")

/-- A desk in a directory that may not be written, with a link to the document under the name of the
sibling. -/
def lockedDesk : FileDesk where
  file := (fooDesk crlfDocument .crlf).file
  tree :=
    { (fooDesk crlfDocument .crlf).tree.put ["Foo.ts.accessor-gen.tmp"] (.link "Foo.ts") with
      refusals := { name? := fun _ => some .denied } }

/-- **Edits that fail lose documents**: one that cannot be written is taken away as the sibling, and
one that can is changed by way of the sibling, which then cannot be renamed. -/
theorem perform_lost :
    let edit : Edit := ⟨⟨1, 0⟩, ["  // a\n"]⟩
    (OpenFile.open? (fooDesk crlfDocument .crlf).tree "Foo.ts" ⟨3, 0⟩ = .ok replacedDesk.file ∧
        (edit.perform replacedDesk).result = .error (.file .denied) ∧
        replacedDesk.tree.placeOf? ["Foo.ts"] = .ok (.occupied ["Foo.ts.accessor-gen.tmp"]) ∧
        replacedDesk.tree.lookup? ["Foo.ts.accessor-gen.tmp"] =
          some (.file crlfDocument.toUTF8 0o444) ∧
        (edit.perform replacedDesk).editor.tree.lookup? ["Foo.ts.accessor-gen.tmp"] = none) ∧
      OpenFile.open? lockedDesk.tree "Foo.ts" ⟨3, 0⟩ = .ok lockedDesk.file ∧
      (edit.perform lockedDesk).result = .error (.file .denied) ∧
      lockedDesk.tree.placeOf? ["Foo.ts"] = .ok (.occupied ["Foo.ts"]) ∧
      lockedDesk.tree.lookup? ["Foo.ts"] = some (.file crlfDocument.toUTF8 0o644) ∧
      (edit.perform lockedDesk).editor.tree.lookup? ["Foo.ts"] =
        some (.file (lockedDesk.file.updated ⟨1, 0⟩ ["  // a\n"]).toUTF8 0o644) :=
  ⟨⟨by rfl, by rfl, by rfl, by rfl, by rfl⟩, by rfl, by rfl, by rfl, by rfl, by rfl⟩

end FileDesk

end Accessors
