import Accessors.Proofs.Files.Walk

/-!
# Trees that keep their ways

Which way a path takes is decided by directories and links. A tree that keeps those of another, and
has a file wherever that has one, `Retains` the ways of the other: what a path led to it still leads
to (`Retains.leads`), and files that were put under free names are found there.

Locations that ways lead to have directories alone in front of them (`Reached`, `Leads.reached`). So
their own names lead there as well, with no link to follow (`Reached.way`).
-/

namespace Accessors.Files.Tree

variable {tree tree' : Tree}

/-! ## Trees with the same ways -/

/-- The location of a place. -/
def Place.location : Place → Location
  | .occupied location => location
  | .vacant location => location

/-- What a way leads to once there are files under the names that were free. -/
def Walk.filled : Walk → Walk
  | .arrived place => .arrived (.occupied place.location)
  | w => w

/-- Whether ways go on as before with one entry in place of another: it is the same, or both are
files. -/
inductive KeptAs : Entry → Entry → Prop
  | same (entry : Entry) : KeptAs entry entry
  | file (bytes bytes' : ByteArray) (mode mode' : Mode) :
      KeptAs (.file bytes mode) (.file bytes' mode')

/-- Whether a tree keeps the directories and links of another, and has a file wherever there was
one. The same is refused in both. -/
structure Retains (tree tree' : Tree) : Prop where
  workingDirectory : tree'.workingDirectory = tree.workingDirectory
  refusals : tree'.refusals = tree.refusals
  kept : ∀ {location entry}, tree.lookup? location = some entry →
    ∃ entry', tree'.lookup? location = some entry' ∧ KeptAs entry entry'

namespace Retains

theorem trans {tree'' : Tree} (h : tree.Retains tree') (h' : tree'.Retains tree'') :
    tree.Retains tree'' where
  workingDirectory := h'.workingDirectory.trans h.workingDirectory
  refusals := h'.refusals.trans h.refusals
  kept := by
    intro location entry hentry
    obtain ⟨entry', hentry', hkept⟩ := h.kept hentry
    obtain ⟨entry'', hentry'', hkept'⟩ := h'.kept hentry'
    refine ⟨entry'', hentry'', ?_⟩
    cases hkept with
    | same => exact hkept'
    | file =>
      cases hkept' with
      | same => exact .file _ _ _ _
      | file => exact .file _ _ _ _

theorem link (h : tree.Retains tree') {location : Location} {target : String}
    (hentry : tree.lookup? location = some (.link target)) :
    tree'.lookup? location = some (.link target) := by
  obtain ⟨entry', hentry', hkept⟩ := h.kept hentry
  cases hkept
  exact hentry'

theorem isDirectory (h : tree.Retains tree') {location : Location}
    (hdir : tree.isDirectory location = true) : tree'.isDirectory location = true := by
  obtain ⟨entry', hentry', hkept⟩ := h.kept (isDirectory_iff.1 hdir)
  cases hkept
  exact isDirectory_iff.2 hentry'

theorem way (h : tree.Retains tree') {here : Location} {steps : List String} {w : Walk}
    (hway : tree.Way here steps w)
    (hvacant : ∀ location, w = .arrived (.vacant location) →
      ∃ bytes mode, tree'.lookup? location = some (.file bytes mode)) :
    tree'.Way here steps w.filled := by
  induction hway with
  | arrived => exact .arrived
  | stay hdir hstay _ ih => exact .stay (h.isDirectory hdir) hstay (ih hvacant)
  | up hdir _ ih => exact .up (h.isDirectory hdir) (ih hvacant)
  | vacant hdir hname hnone =>
    obtain ⟨bytes, mode, hentry⟩ := hvacant _ rfl
    exact .enter (h.isDirectory hdir) hname hentry (by simp) .arrived
  | link hdir hname hentry => exact .link (h.isDirectory hdir) hname (h.link hentry)
  | enter hdir hname hentry hlink _ ih =>
    obtain ⟨entry', hentry', hkept⟩ := h.kept hentry
    have hlink' : ∀ target, entry' ≠ .link target := by
      cases hkept with
      | same => exact hlink
      | file => simp
    exact .enter (h.isDirectory hdir) hname hentry' hlink' (ih hvacant)

/-- **What a way led to, it still leads to**, and to the files that were put under free names. -/
theorem leads (h : tree.Retains tree') {links : Nat} {here : Location} {steps : List String}
    {place : Place} (hleads : tree.Leads links here steps place)
    (hvacant : ∀ location, place = .vacant location →
      ∃ bytes mode, tree'.lookup? location = some (.file bytes mode)) :
    tree'.Leads links here steps (.occupied place.location) := by
  induction hleads with
  | direct hway =>
    exact .direct (h.way hway fun location heq => hvacant location (Walk.arrived.inj heq))
  | through hway _ ih => exact .through (h.way hway (by simp)) (ih hvacant)

theorem leads_occupied (h : tree.Retains tree') {links : Nat} {here location : Location}
    {steps : List String} (hleads : tree.Leads links here steps (.occupied location)) :
    tree'.Leads links here steps (.occupied location) :=
  h.leads hleads (by simp)

theorem resolve?_eq (h : tree.Retains tree') {path : String} {location : Location}
    (hresolve : tree.resolve? path = .ok location) : tree'.resolve? path = .ok location := by
  rw [resolve?_eq_ok_iff] at hresolve ⊢
  rw [h.workingDirectory]
  exact ⟨hresolve.1, h.leads_occupied hresolve.2⟩

theorem nameIn?_eq (h : tree.Retains tree') {location found : Location}
    (hname : tree.nameIn? location = .ok found) : tree'.nameIn? location = .ok found := by
  rw [nameIn?_eq_ok_iff] at hname ⊢
  obtain ⟨here, directory, name, rfl, hleads, hdir, hdots, hshort, rfl⟩ := hname
  exact ⟨here, directory, name, rfl, h.leads_occupied hleads, h.isDirectory hdir, hdots, hshort,
    rfl⟩

end Retains

/-! ## Locations that are reached -/

/-- Whether there are directories alone on the way to a location, by its own names. -/
inductive Reached (tree : Tree) : Location → Prop
  | root : Reached tree []
  | name {here : Location} {name : String} (h : Reached tree here)
      (hdir : tree.isDirectory here = true) (hname : IsName name) : Reached tree (here ++ [name])

theorem Reached.dropLast {location : Location} (h : tree.Reached location) :
    tree.Reached location.dropLast := by
  cases h with
  | root => exact .root
  | name h _ _ => rwa [List.dropLast_concat]

theorem Reached.retains {location : Location} (h : tree.Reached location)
    (hretains : tree.Retains tree') : tree'.Reached location := by
  induction h with
  | root => exact .root
  | name _ hdir hname ih => exact .name ih (hretains.isDirectory hdir) hname

theorem Reached.start {directory : Location} (h : tree.Reached directory) (path : String) :
    tree.Reached (start directory path) := by
  rw [Tree.start]
  split
  · exact .root
  · exact h

theorem reached_start {path : String}
    (h : Path.isAbsolute path = true ∨ tree.Reached tree.workingDirectory) :
    tree.Reached (start tree.workingDirectory path) := by
  rcases h with habsolute | hhome
  · rw [start, if_pos habsolute]
    exact .root
  · exact hhome.start path

/-- The location that a walk ends at, or that has the link it ends at. -/
def Walk.EndsIn (P : Location → Prop) : Walk → Prop
  | .arrived place => P place.location
  | .atLink directory _ _ => P directory
  | .failed _ => True

theorem Way.reached {here : Location} {steps : List String} {w : Walk}
    (h : tree.Way here steps w) (hhere : tree.Reached here) : w.EndsIn tree.Reached := by
  induction h with
  | arrived => exact hhere
  | stay _ _ _ ih => exact ih hhere
  | up _ _ ih => exact ih hhere.dropLast
  | vacant hdir hname _ => exact .name hhere hdir hname
  | link _ _ _ => exact hhere
  | enter hdir hname _ _ _ ih => exact ih (.name hhere hdir hname)

theorem Leads.reached {links : Nat} {here : Location} {steps : List String} {place : Place}
    (h : tree.Leads links here steps place) (hhere : tree.Reached here) :
    tree.Reached place.location := by
  induction h with
  | direct h => exact h.reached hhere
  | through h _ ih => exact ih ((h.reached hhere : tree.Reached _).start _)

theorem Reached.way {here : Location} (h : tree.Reached here) (hdir : tree.isDirectory here = true)
    {rest : List String} {w : Walk} (hrest : tree.Way here rest w) :
    tree.Way [] (here ++ rest) w := by
  induction h generalizing rest with
  | root => exact hrest
  | name _ hparent hname ih =>
    rw [List.append_assoc]
    exact ih hparent (.enter hparent hname (isDirectory_iff.1 hdir) (by simp) hrest)

theorem Reached.nameIn?_eq {location : Location} (h : tree.Reached location) (hne : location ≠ []) :
    tree.nameIn? location = .ok location := by
  cases h with
  | root => exact absurd rfl hne
  | @name here name h hdir hname =>
    have hway : tree.Way [] (here ++ []) (.arrived (.occupied here)) := h.way hdir .arrived
    rw [List.append_nil] at hway
    have hdots : ¬ (name = "." ∨ name = "..") := by
      rintro (h | h)
      · exact hname.not_here h
      · exact hname.not_up h
    exact nameIn?_eq_ok_iff.2 ⟨here, here, name, rfl, .direct hway, hdir, hdots, hname.short, rfl⟩

theorem Reached.placeOf?_eq {location : Location} (h : tree.Reached location) {bytes : ByteArray}
    {mode : Mode} (hentry : tree.lookup? location = some (.file bytes mode)) :
    tree.placeOf? location = .ok (.occupied location) := by
  cases h with
  | root => exact absurd rfl (ne_nil_of_file hentry)
  | name h hdir hname =>
    have hway := h.way hdir (.enter hdir hname hentry (by simp) .arrived)
    exact (Leads.direct hway).visit?_eq

theorem Reached.mode_eq {location : Location} (h : tree.Reached location) {bytes : ByteArray}
    {mode : Mode} (hentry : tree.lookup? location = some (.file bytes mode)) :
    (tree.placeOf? location >>= tree.modeAt?) = .ok mode := by
  rw [h.placeOf?_eq hentry]
  show tree.modeAt? (.occupied location) = .ok mode
  rw [modeAt?, hentry]

end Accessors.Files.Tree
