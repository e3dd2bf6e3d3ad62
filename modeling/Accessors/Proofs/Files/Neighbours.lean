import Accessors.Proofs.Files.Save

/-!
# What a save does to its neighbours

The sibling of a file is written before the file. Nothing is asked about what stands under its name:
a link there is followed, and whatever the save comes to, a file or a link under that name is gone
afterwards, unless the system refuses to take it away (`lookup?_save_sibling`). A directory there is
left alone, and then nothing changes at all (`save_eq_of_directory`).

A save reaches no further than that: to the target, to the name of the sibling, and to the place
that this name leads to (`lookup?_save_of_ne`). So it changes nothing but its target exactly if
neither a file nor a link stands in the place of the sibling, or it cannot be taken away and what is
written changes nothing (`save_frame_iff`). A save that fails leaves the file that a path leads to
alone exactly if it has not written to it by way of the sibling and the path does without what was
taken away as the sibling (`leads_of_save_error_iff`).
-/

namespace Accessors.Files.Tree

variable {tree : Tree} {target : Location} {bytes : ByteArray}

/-! ## Under the name of the sibling -/

/-- **Whatever a save comes to, no file and no link is left under the name of the sibling**, unless
one stood there that the user may not take away. -/
theorem lookup?_save_sibling {mode : Mode} (hmode : (tree.placeOf? target >>= tree.modeAt?) = .ok mode)
    {found : Location} (hfound : tree.nameIn? (sibling target) = .ok found)
    (hdir : tree.lookup? found ≠ some .directory)
    (hallowed : tree.lookup? found = none ∨ tree.refusals.name? found = none) :
    Tree.lookup? (tree.save target bytes).2 found = none := by
  have hdiscard {mode' : Mode} {staged : Tree} {found' : Location} {place : Place}
      (h : tree.Staged target bytes mode' staged found' place) :
      Tree.lookup? (staged.discard (sibling target)) found = none := by
    obtain rfl := Except.ok.inj (hfound.symm.trans h.name)
    obtain ⟨entry, hentry, hne⟩ := h.exists_lookup?_found
    refine lookup?_discard_self h.nameIn?_eq (by rwa [hentry, ne_eq, Option.some.injEq]) ?_
    rw [h.retains.refusals]
    exact hallowed.elim h.allowed id
  have hsaving := saving_save tree target bytes
  generalize tree.save target bytes = result at hsaving
  cases hsaving with
  | noMode hfault => cases hfault.symm.trans hmode
  | notWritten =>
    rcases hallowed with hnone | hallowed
    · rw [discard_eq_self hfound (.inl hnone), hnone]
    · exact lookup?_discard_self hfound hdir hallowed
  | notReady _ hstaged => exact hdiscard hstaged
  | notRenamed _ hstaged => exact hdiscard hstaged
  | saved _ hstaged hrename =>
    obtain rfl := Except.ok.inj (hfound.symm.trans hstaged.name)
    obtain ⟨location, entry, -, -, hne, -, rfl⟩ := hstaged.of_renamed hrename
    rw [lookup?_put_of_ne _ hne.symm, lookup?_erase_self _ hstaged.ne_nil]

theorem save_eq_of_directory {found : Location}
    (hfound : tree.nameIn? (sibling target) = .ok found)
    (hdir : tree.lookup? found = some .directory) : (tree.save target bytes).2 = tree := by
  have hnotStaged {mode : Mode} {staged : Tree} {found' : Location} {place : Place}
      (h : tree.Staged target bytes mode staged found' place) : False := by
    obtain rfl := Except.ok.inj (hfound.symm.trans h.name)
    exact h.not_directory hdir
  have hsaving := saving_save tree target bytes
  generalize tree.save target bytes = result at hsaving
  cases hsaving with
  | noMode => rfl
  | notWritten => exact discard_eq_self hfound (.inr (.inl hdir))
  | notReady _ hstaged => exact (hnotStaged hstaged).elim
  | notRenamed _ hstaged => exact (hnotStaged hstaged).elim
  | saved _ hstaged => exact (hnotStaged hstaged).elim

/-- A sibling that cannot be taken away stays, and so does all that was written by way of it. -/
theorem save_of_refused {mode : Mode} (hmode : (tree.placeOf? target >>= tree.modeAt?) = .ok mode)
    {found : Location} (hfound : tree.nameIn? (sibling target) = .ok found) {fault : Fault}
    (hrefused : tree.refusals.name? found = some fault) (bytes : ByteArray) :
    (∀ place, tree.placeOf? (sibling target) true = .ok place → ¬ tree.Writable place) ∧
        (tree.save target bytes).2 = tree ∨
      ∃ mode' place, tree.Staged target bytes mode' (tree.save target bytes).2 found place ∧
        (tree.refusals.mode? place.location = none ∧ mode' = mode ∨
          (∃ fault, tree.refusals.mode? place.location = some fault) ∧
            ∀ bytes' mode'', tree.lookup? place.location = some (.file bytes' mode'') →
              mode'' = mode') := by
  have hdiscard {mode' : Mode} {staged : Tree} {found' : Location} {place : Place}
      (h : tree.Staged target bytes mode' staged found' place) :
      found' = found ∧ staged.discard (sibling target) = staged := by
    obtain rfl := Except.ok.inj (hfound.symm.trans h.name)
    exact ⟨rfl, discard_eq_self h.nameIn?_eq (.inr (.inr ⟨fault, h.retains.refusals ▸ hrefused⟩))⟩
  have hsaving := saving_save tree target bytes
  generalize tree.save target bytes = result at hsaving ⊢
  cases hsaving with
  | noMode hfault => cases hfault.symm.trans hmode
  | notWritten _ hwrite =>
    refine .inl ⟨fun place hplace hwritable => ?_, ?_⟩
    · obtain ⟨written, hwritten⟩ := exists_writeAt hwritable bytes
      rw [hplace] at hwrite
      cases hwrite.symm.trans hwritten
    · exact discard_eq_self hfound (.inr (.inr ⟨fault, hrefused⟩))
  | notReady _ hstaged hkept hrefused' =>
    obtain ⟨rfl, heq⟩ := hdiscard hstaged
    rw [heq]
    exact .inr ⟨_, _, hstaged, .inr ⟨⟨_, hrefused'⟩, hkept⟩⟩
  | notRenamed hmode' hstaged hallowed =>
    obtain ⟨rfl, heq⟩ := hdiscard hstaged
    obtain rfl := Except.ok.inj (hmode'.symm.trans hmode)
    rw [heq]
    exact .inr ⟨_, _, hstaged, .inl ⟨hallowed, rfl⟩⟩
  | saved _ hstaged hrename =>
    obtain rfl := Except.ok.inj (hfound.symm.trans hstaged.name)
    obtain ⟨_, _, -, -, -, hallowed, -⟩ := hstaged.of_renamed hrename
    cases hallowed.symm.trans hrefused

/-! ## Everywhere else -/

/-- **A save reaches no further** than to the name of the sibling, to the place that this name leads
to and, if it succeeds, to the target. -/
theorem lookup?_save_of_ne {other : Location}
    (htarget : (tree.save target bytes).1 = .ok () → tree.nameIn? target ≠ .ok other)
    (hsibling : tree.nameIn? (sibling target) ≠ .ok other)
    (hplace : ∀ place, tree.placeOf? (sibling target) true = .ok place → place.location ≠ other) :
    Tree.lookup? (tree.save target bytes).2 other = tree.lookup? other := by
  have hothers {mode : Mode} {staged : Tree} {found : Location} {place : Place}
      (h : tree.Staged target bytes mode staged found place) :
      found ≠ other ∧ staged.lookup? other = tree.lookup? other := by
    refine ⟨?_, h.others other (hplace place h.leads).symm⟩
    rintro rfl
    exact hsibling h.name
  have hdiscard {mode : Mode} {staged : Tree} {found : Location} {place : Place}
      (h : tree.Staged target bytes mode staged found place) :
      Tree.lookup? (staged.discard (sibling target)) other = tree.lookup? other := by
    obtain ⟨hne, hsame⟩ := hothers h
    rw [← hsame]
    apply lookup?_discard_of_ne
    rw [h.nameIn?_eq]
    exact fun heq => hne (Except.ok.inj heq)
  have hsaving := saving_save tree target bytes
  generalize tree.save target bytes = result at hsaving htarget
  cases hsaving with
  | noMode => rfl
  | notWritten => exact lookup?_discard_of_ne tree hsibling
  | notReady _ hstaged => exact hdiscard hstaged
  | notRenamed _ hstaged => exact hdiscard hstaged
  | saved _ hstaged hrename =>
    obtain ⟨hne, hsame⟩ := hothers hstaged
    obtain ⟨location, entry, hname, -, -, -, rfl⟩ := hstaged.of_renamed hrename
    have hlocation : other ≠ location := by
      rintro rfl
      exact htarget rfl hname
    rw [lookup?_put_of_ne _ hlocation, lookup?_erase_of_ne _ hne.symm, hsame]

/-- Whether what stands in the place of the sibling cannot be taken away, and the bytes and the mode
of a save make no difference where they are written by way of it. -/
def KeepsSibling (tree : Tree) (target : Location) (bytes : ByteArray) (mode : Mode) : Prop :=
  (∃ found fault, tree.nameIn? (sibling target) = .ok found ∧
    tree.refusals.name? found = some fault) ∧
  ∀ place, tree.placeOf? (sibling target) true = .ok place → tree.Writable place →
    tree.nameIn? target = .ok place.location ∨
      ∃ mode', tree.lookup? place.location = some (.file bytes mode') ∧
        (mode' = mode ∨ ∃ fault, tree.refusals.mode? place.location = some fault)

theorem save_frame_iff_of_refused {mode : Mode}
    (hmode : (tree.placeOf? target >>= tree.modeAt?) = .ok mode) {found : Location}
    (hfound : tree.nameIn? (sibling target) = .ok found) {fault : Fault}
    (hrefused : tree.refusals.name? found = some fault) :
    (∀ other, tree.nameIn? target ≠ .ok other →
        Tree.lookup? (tree.save target bytes).2 other = tree.lookup? other) ↔
      tree.KeepsSibling target bytes mode := by
  obtain ⟨hnot, hsame⟩ | ⟨mode', place, hstaged, hmode'⟩ :=
    save_of_refused hmode hfound hrefused bytes
  · rw [hsame]
    have hkeeps : tree.KeepsSibling target bytes mode :=
      ⟨⟨found, fault, hfound, hrefused⟩,
        fun place hplace hwritable => absurd hwritable (hnot place hplace)⟩
    exact iff_of_true (fun _ _ => rfl) hkeeps
  · constructor
    · intro hframe
      refine ⟨⟨found, fault, hfound, hrefused⟩, fun place' hplace' _ => ?_⟩
      obtain rfl := Except.ok.inj (hstaged.leads.symm.trans hplace')
      rw [or_iff_not_imp_left]
      intro htarget
      have hentry : tree.lookup? place.location = some (.file bytes mode') :=
        (hframe _ htarget).symm.trans hstaged.entry
      exact ⟨mode', hentry, hmode'.imp And.right And.left⟩
    · rintro ⟨-, hkeeps⟩ other htarget
      by_cases heq : other = place.location
      · subst heq
        obtain hname | ⟨mode'', hentry, hsame⟩ := hkeeps place hstaged.leads hstaged.writable
        · exact absurd hname htarget
        · rw [hstaged.entry, hentry]
          obtain ⟨hallowed, rfl⟩ | ⟨-, hkept⟩ := hmode'
          · obtain rfl | ⟨_, hrefused'⟩ := hsame
            · rfl
            · cases hallowed.symm.trans hrefused'
          · rw [hkept bytes mode'' hentry]
      · exact hstaged.others other heq

theorem lookup?_save_of_hasNoSibling {mode : Mode}
    (hmode : (tree.placeOf? target >>= tree.modeAt?) = .ok mode) (hnone : tree.HasNoSibling target)
    {other : Location} (htarget : tree.nameIn? target ≠ .ok other) :
    Tree.lookup? (tree.save target bytes).2 other = tree.lookup? other := by
  by_cases hfound : tree.nameIn? (sibling target) = .ok other
  · cases hentry : tree.lookup? other with
    | none => exact lookup?_save_sibling hmode hfound (by simp [hentry]) (.inl hentry)
    | some entry =>
      obtain rfl := hnone other entry hfound hentry
      rw [save_eq_of_directory hfound hentry, hentry]
  · refine lookup?_save_of_ne (fun _ => htarget) hfound fun place hplace => ?_
    -- with no link there, the sibling is written under its own name
    obtain ⟨found, hname, ⟨-, rfl⟩ | ⟨link, hlink⟩ | ⟨entry, -, rfl⟩⟩ := placeOf?_sibling hplace
    · rintro rfl
      exact hfound hname
    · cases hnone found _ hname hlink
    · rintro rfl
      exact hfound hname

/-- **A save changes nothing but its target** exactly if it does not come to write, if neither a
file nor a link stands in the place of the sibling, or if one stands there that cannot be taken away
and what is written makes no difference. -/
theorem save_frame_iff :
    (∀ other, tree.nameIn? target ≠ .ok other →
        Tree.lookup? (tree.save target bytes).2 other = tree.lookup? other) ↔
      (∃ fault, (tree.placeOf? target >>= tree.modeAt?) = .error fault) ∨
        tree.HasNoSibling target ∨
        ∃ mode, (tree.placeOf? target >>= tree.modeAt?) = .ok mode ∧
          tree.KeepsSibling target bytes mode := by
  cases hmode : tree.placeOf? target >>= tree.modeAt? with
  | error fault =>
    have hsame : (tree.save target bytes).2 = tree := by rw [save, hmode]
    simp [hsame]
  | ok mode =>
    simp only [reduceCtorEq, exists_false, false_or, Except.ok.injEq, exists_eq_left']
    constructor
    · intro hframe
      rw [or_iff_not_imp_left]
      intro hsibling
      simp only [HasNoSibling, not_forall] at hsibling
      obtain ⟨found, entry, hfound, hentry, hne⟩ := hsibling
      cases hrefused : tree.refusals.name? found with
      | some fault => exact (save_frame_iff_of_refused hmode hfound hrefused).1 hframe
      | none =>
        -- what stands there is gone after the save, and it is not the target
        have htarget : tree.nameIn? target ≠ .ok found := by
          intro hname
          exact sibling_ne found (eq_of_nameIn?_sibling hname hfound).symm
        have hdir : tree.lookup? found ≠ some .directory := by
          rwa [hentry, ne_eq, Option.some.injEq]
        have hgone := hframe found htarget
        rw [lookup?_save_sibling hmode hfound hdir (.inr hrefused), hentry] at hgone
        cases hgone
    · rintro (hnone | hkeeps)
      · exact fun other => lookup?_save_of_hasNoSibling hmode hnone
      · obtain ⟨⟨found, fault, hfound, hrefused⟩, -⟩ := id hkeeps
        exact (save_frame_iff_of_refused hmode hfound hrefused).2 hkeeps

/-! ## Files that are taken away -/

section Erase

variable {location : Location} (h : tree.TakesFile location)
include h

theorem isDirectory_erase {other : Location} (hdir : tree.isDirectory other = true) :
    (tree.erase location).isDirectory other = true := by
  rw [isDirectory_iff] at hdir ⊢
  rw [lookup?_erase_of_ne, hdir]
  rintro rfl
  obtain ⟨_, _, heq⟩ := h.2 _ hdir
  cases heq

theorem Way.erase {here : Location} {steps : List String} {w : Walk} (hway : tree.Way here steps w)
    (hw : w ≠ .arrived (.occupied location)) : (tree.erase location).Way here steps w := by
  induction hway with
  | arrived => exact .arrived
  | stay hdir hstay _ ih => exact .stay (isDirectory_erase h hdir) hstay (ih hw)
  | up hdir _ ih => exact .up (isDirectory_erase h hdir) (ih hw)
  | @vacant here step hdir hname hnone =>
    refine .vacant (isDirectory_erase h hdir) hname ?_
    by_cases heq : here ++ [step] = location
    · rw [heq, lookup?_erase_self _ h.1]
    · rw [lookup?_erase_of_ne _ heq, hnone]
  | @link here step target rest hdir hname hentry =>
    refine .link (isDirectory_erase h hdir) hname ?_
    rw [lookup?_erase_of_ne, hentry]
    rintro rfl
    obtain ⟨_, _, heq⟩ := h.2 _ hentry
    cases heq
  | @enter here step rest entry w hdir hname hentry hlink hway ih =>
    have hne : here ++ [step] ≠ location := by
      -- behind a file no way goes on
      rintro rfl
      obtain ⟨bytes, mode, rfl⟩ := h.2 _ hentry
      have hnot : tree.isDirectory (here ++ [step]) ≠ true := by
        intro hdir'
        cases hentry.symm.trans (isDirectory_iff.1 hdir')
      cases hway with
      | arrived => exact hw rfl
      | stay hdir => exact hnot hdir
      | up hdir => exact hnot hdir
      | vacant hdir => exact hnot hdir
      | link hdir => exact hnot hdir
      | enter hdir => exact hnot hdir
    refine .enter (isDirectory_erase h hdir) hname ?_ hlink (ih hw)
    rw [lookup?_erase_of_ne _ hne, hentry]

theorem Leads.erase {links : Nat} {here : Location} {steps : List String} {place : Place}
    (hleads : tree.Leads links here steps place) (hplace : place ≠ .occupied location) :
    (tree.erase location).Leads links here steps place := by
  induction hleads with
  | direct hway => exact .direct (hway.erase h fun heq => hplace (Walk.arrived.inj heq))
  | through hway _ ih => exact .through (hway.erase h (by simp)) (ih hplace)

theorem resolve?_erase {path : String} {other : Location} (hother : other ≠ location)
    (hresolve : tree.resolve? path = .ok other) :
    (tree.erase location).resolve? path = .ok other := by
  rw [resolve?_eq_ok_iff] at hresolve ⊢
  exact ⟨hresolve.1, hresolve.2.erase h (by simpa using hother)⟩

end Erase

/-! ## Saves that fail -/

/-- Whether a save writes to the file at a location before it comes to renaming: the name of the
sibling leads there, and the file may be written. -/
def Overwrites (tree : Tree) (target location : Location) : Prop :=
  tree.placeOf? (sibling target) true = .ok (.occupied location) ∧
    tree.Writable (.occupied location)

/-- Whether a save that fails takes away what stands at a location: a file or a link under the name
of the sibling, if it may be taken away. -/
def Discards (tree : Tree) (target location : Location) : Prop :=
  tree.nameIn? (sibling target) = .ok location ∧ tree.refusals.name? location = none ∧
    ∃ entry, tree.lookup? location = some entry ∧ entry ≠ .directory

theorem discard_cases_iff (tree : Tree) (target : Location) :
    tree.discard (sibling target) = tree ∧ (∀ found, ¬ tree.Discards target found) ∨
      ∃ found, tree.Discards target found ∧ tree.discard (sibling target) = tree.erase found := by
  by_cases h : ∃ found, tree.Discards target found
  · obtain ⟨found, hname, hallowed, entry, hentry, hdir⟩ := h
    refine .inr ⟨found, ⟨hname, hallowed, entry, hentry, hdir⟩, ?_⟩
    rw [discard, remove_eq hname hentry hdir hallowed]
  · refine .inl ⟨?_, not_exists.1 h⟩
    rcases discard_cases tree (sibling target) with
      heq | ⟨found, entry, hfound, hentry, hdir, hallowed, -⟩
    · exact heq
    · exact absurd ⟨found, hfound, hallowed, entry, hentry, hdir⟩ h

theorem Retains.erase {tree' : Tree} (h : tree.Retains tree') (location : Location) :
    (tree.erase location).Retains (tree'.erase location) where
  workingDirectory := h.workingDirectory
  refusals := h.refusals
  kept := by
    intro other entry hentry
    by_cases heq : other = location
    · subst heq
      by_cases hroot : other = []
      · subst hroot
        exact ⟨_, hentry, .same entry⟩
      · rw [lookup?_erase_self tree hroot] at hentry
        cases hentry
    · rw [lookup?_erase_of_ne _ heq] at hentry ⊢
      exact h.kept hentry

namespace Staged

variable {mode : Mode} {staged : Tree} {found : Location} {place : Place}

theorem lookup?_eq_iff (h : tree.Staged target bytes mode staged found place) {location : Location}
    {old : ByteArray} {mode' : Mode} (hentry : tree.lookup? location = some (.file old mode'))
    (hmode : place.location = location → mode = mode') :
    staged.lookup? location = some (.file old mode') ↔
      bytes = old ∨ ¬ tree.Overwrites target location := by
  by_cases heq : place.location = location
  · obtain rfl := hmode heq
    cases place with
    | vacant free =>
      obtain rfl : free = location := heq
      cases hentry.symm.trans (leads_of_visit? h.leads).free.1
    | occupied here =>
      obtain rfl : here = location := heq
      have hstaged : staged.lookup? here = some (.file bytes mode) := h.entry
      have hoverwrites : tree.Overwrites target here := ⟨h.leads, h.writable⟩
      simp [hstaged, hoverwrites]
  · rw [h.others location (Ne.symm heq)]
    refine iff_of_true hentry (.inr fun ⟨hplace, _⟩ => heq ?_)
    rw [Except.ok.inj (h.leads.symm.trans hplace)]
    rfl

theorem retains_of_occupied {written : Location}
    (h : tree.Staged target bytes mode staged found (.occupied written)) : staged.Retains tree where
  workingDirectory := h.retains.workingDirectory.symm
  refusals := h.retains.refusals.symm
  kept := by
    intro other entry hother
    by_cases heq : other = written
    · subst heq
      obtain ⟨old, mode', hold, -⟩ := h.writable
      obtain rfl := Option.some.inj (h.entry.symm.trans hother)
      exact ⟨_, hold, .file _ _ _ _⟩
    · exact ⟨entry, (h.others other heq).symm.trans hother, .same entry⟩

theorem retains_of_vacant {free : Location}
    (h : tree.Staged target bytes mode staged found (.vacant free)) :
    ((staged.erase found).erase free).Retains (tree.erase found) where
  workingDirectory := h.retains.workingDirectory.symm
  refusals := h.retains.refusals.symm
  kept := by
    intro other entry hother
    have hfree : other ≠ free := by
      rintro rfl
      rw [lookup?_erase_self _ (leads_of_visit? h.leads).free.2] at hother
      cases hother
    have hfound : other ≠ found := by
      rintro rfl
      rw [lookup?_erase_of_ne _ hfree, lookup?_erase_self _ h.ne_nil] at hother
      cases hother
    rw [lookup?_erase_of_ne _ hfree, lookup?_erase_of_ne _ hfound, h.others other hfree] at hother
    exact ⟨entry, by rw [lookup?_erase_of_ne _ hfound, hother], .same entry⟩

theorem leads_erase_iff (h : tree.Staged target bytes mode staged found place)
    {location : Location} {old : ByteArray} {mode' : Mode}
    (hentry : tree.lookup? location = some (.file old mode')) {links : Nat} {here : Location}
    {steps : List String} :
    (staged.erase found).Leads links here steps (.occupied location) ↔
      (tree.erase found).Leads links here steps (.occupied location) := by
  constructor
  · intro hleads
    cases place with
    | occupied written => exact (h.retains_of_occupied.erase found).leads_occupied hleads
    | vacant free =>
      -- the way does not lead to the new file, so it goes on without it
      have hne : location ≠ free := by
        rintro rfl
        cases hentry.symm.trans (leads_of_visit? h.leads).free.1
      have htakes : (staged.erase found).TakesFile free := by
        refine ⟨(leads_of_visit? h.leads).free.2, fun entry hfree => ?_⟩
        by_cases heq : free = found
        · rw [heq, lookup?_erase_self _ h.ne_nil] at hfree
          cases hfree
        · rw [lookup?_erase_of_ne _ heq] at hfree
          exact ⟨bytes, mode, Option.some.inj (hfree.symm.trans h.entry)⟩
      exact h.retains_of_vacant.leads_occupied (hleads.erase htakes (by simpa using hne))
  · exact (h.retains.erase found).leads_occupied

theorem discards_iff (h : tree.Staged target bytes mode staged found place) {location : Location} :
    tree.Discards target location ↔
      location = found ∧ tree.refusals.name? found = none ∧ tree.lookup? found ≠ none := by
  constructor
  · rintro ⟨hname, hallowed, entry, hentry, -⟩
    obtain rfl := Except.ok.inj (h.name.symm.trans hname)
    exact ⟨rfl, hallowed, by simp [hentry]⟩
  · rintro ⟨rfl, hallowed, hsome⟩
    obtain ⟨entry, hentry⟩ := Option.ne_none_iff_exists'.1 hsome
    refine ⟨h.name, hallowed, entry, hentry, ?_⟩
    rintro rfl
    exact h.not_directory hentry

/-- What becomes of the sibling when it is discarded: it cannot be taken away, it is new and nothing
is left of it, or what stood there before is gone with it. -/
theorem discard_cases (h : tree.Staged target bytes mode staged found place) :
    (staged.discard (sibling target) = staged ∧ ∀ found, ¬ tree.Discards target found) ∨
      place = .vacant found ∨
      tree.Discards target found ∧ staged.discard (sibling target) = staged.erase found := by
  cases hrefused : tree.refusals.name? found with
  | some fault =>
    refine .inl ⟨discard_eq_self h.nameIn?_eq (.inr (.inr ⟨fault, h.retains.refusals ▸ hrefused⟩)),
      fun found' hdiscards => ?_⟩
    cases hrefused.symm.trans (h.discards_iff.1 hdiscards).2.1
  | none =>
    rcases h.stands with ⟨-, rfl⟩ | ⟨⟨link, hstands⟩, -⟩ | ⟨⟨_, _, hstands⟩, -⟩
    · exact .inr (.inl rfl)
    all_goals
      obtain ⟨entry, hfound, hdir⟩ := h.exists_lookup?_found
      refine .inr (.inr ⟨h.discards_iff.2 ⟨rfl, hrefused, by simp [hstands]⟩, ?_⟩)
      rw [discard, remove_eq h.nameIn?_eq hfound hdir (h.retains.refusals ▸ hrefused)]

theorem leads_discard_iff (h : tree.Staged target bytes mode staged found place)
    {location : Location} {old : ByteArray} {mode' : Mode}
    (hentry : tree.lookup? location = some (.file old mode'))
    (hmode : place.location = location → mode = mode') {links : Nat} {here : Location}
    {steps : List String} (hleads : tree.Leads links here steps (.occupied location)) :
    ((staged.discard (sibling target)).Leads links here steps (.occupied location) ∧
        Tree.lookup? (staged.discard (sibling target)) location = some (.file old mode')) ↔
      (bytes = old ∨ ¬ tree.Overwrites target location) ∧
        ∀ found, tree.Discards target found → found ≠ location ∧
          (tree.erase found).Leads links here steps (.occupied location) := by
  obtain ⟨heq, hnone⟩ | rfl | ⟨hdiscards, heq⟩ := h.discard_cases
  · rw [heq, h.lookup?_eq_iff hentry hmode, and_iff_right (h.retains.leads_occupied hleads)]
    exact (and_iff_left fun found' hdiscards => absurd hdiscards (hnone found')).symm
  · -- the tree is as it was
    refine iff_of_true ⟨h.alike_discard.retains.leads_occupied hleads, ?_⟩ ⟨.inr ?_, ?_⟩
    · rw [h.alike_discard.lookup?, hentry]
    · rintro ⟨hplace, -⟩
      cases hplace.symm.trans h.leads
    · intro found' hdiscards
      exact absurd (leads_of_visit? h.leads).free.1 (h.discards_iff.1 hdiscards).2.2
  · rw [heq, h.leads_erase_iff hentry]
    constructor
    · rintro ⟨hleads', hkept⟩
      have hne : location ≠ found := by
        rintro rfl
        rw [lookup?_erase_self _ h.ne_nil] at hkept
        cases hkept
      rw [lookup?_erase_of_ne _ hne] at hkept
      refine ⟨(h.lookup?_eq_iff hentry hmode).1 hkept, fun found' hdiscards' => ?_⟩
      obtain ⟨rfl, -⟩ := h.discards_iff.1 hdiscards'
      exact ⟨hne.symm, hleads'⟩
    · rintro ⟨hkept, hwithout⟩
      obtain ⟨hne, hleads'⟩ := hwithout found hdiscards
      rw [lookup?_erase_of_ne _ hne.symm]
      exact ⟨hleads', (h.lookup?_eq_iff hentry hmode).2 hkept⟩

end Staged

/-- **A save that fails leaves the file that a way leads to alone** exactly if it does not write to
it by way of the sibling, or writes what is there, and if it does not take away as the sibling what
the way leads to or through. -/
theorem leads_of_save_error_iff {location : Location} {old : ByteArray} {mode : Mode}
    (hplace : tree.placeOf? target = .ok (.occupied location))
    (hentry : tree.lookup? location = some (.file old mode)) {fault : Fault} {after : Tree}
    (h : tree.save target bytes = (.error fault, after)) {links : Nat} {here : Location}
    {steps : List String} (hleads : tree.Leads links here steps (.occupied location)) :
    (after.Leads links here steps (.occupied location) ∧
        after.lookup? location = some (.file old mode)) ↔
      (bytes = old ∨ ¬ tree.Overwrites target location) ∧
        ∀ found, tree.Discards target found → found ≠ location ∧
          (tree.erase found).Leads links here steps (.occupied location) := by
  have hmode : (tree.placeOf? target >>= tree.modeAt?) = .ok mode := by
    rw [hplace]
    show tree.modeAt? (.occupied location) = .ok mode
    rw [modeAt?, hentry]
  have hsaving := saving_save tree target bytes
  rw [h] at hsaving
  cases hsaving with
  | noMode hfault => cases hfault.symm.trans hmode
  | notWritten _ hwrite =>
    have hoverwrites : ¬ tree.Overwrites target location := by
      rintro ⟨hsibling, hwritable⟩
      obtain ⟨written, hwritten⟩ := exists_writeAt hwritable bytes
      rw [hsibling] at hwrite
      cases hwrite.symm.trans hwritten
    obtain ⟨hdiscard, hnone⟩ | ⟨found, hdiscards, hdiscard⟩ := discard_cases_iff tree target
    · rw [hdiscard]
      refine iff_of_true ⟨hleads, hentry⟩ ⟨.inr hoverwrites, fun found hdiscards => ?_⟩
      exact absurd hdiscards (hnone found)
    · rw [hdiscard]
      constructor
      · rintro ⟨hleads', hkept⟩
        refine ⟨.inr hoverwrites, fun found' hdiscards' => ?_⟩
        obtain rfl := Except.ok.inj (hdiscards.1.symm.trans hdiscards'.1)
        refine ⟨?_, hleads'⟩
        rintro rfl
        rw [lookup?_erase_self tree (ne_nil_of_file hentry)] at hkept
        cases hkept
      · rintro ⟨-, hwithout⟩
        obtain ⟨hne, hleads'⟩ := hwithout found hdiscards
        exact ⟨hleads', by rw [lookup?_erase_of_ne tree hne.symm, hentry]⟩
  | notReady _ hstaged hkept =>
    -- the file has its own mode still
    exact hstaged.leads_discard_iff hentry (fun heq => (hkept _ _ (heq ▸ hentry)).symm) hleads
  | notRenamed hmode' hstaged =>
    exact hstaged.leads_discard_iff hentry (fun _ => Except.ok.inj (hmode'.symm.trans hmode)) hleads

/-- **A save that fails leaves a file alone, and a path that leads to it,** exactly if it does not
write to it by way of the sibling, or writes what is there, and if the path does without what is
taken away as the sibling. -/
theorem resolve?_of_save_error_iff {old : ByteArray} {mode : Mode} (hreached : tree.Reached target)
    (hentry : tree.lookup? target = some (.file old mode)) {path : String}
    (hresolve : tree.resolve? path = .ok target) {fault : Fault} {after : Tree}
    (h : tree.save target bytes = (.error fault, after)) :
    (after.resolve? path = .ok target ∧ after.lookup? target = some (.file old mode)) ↔
      (bytes = old ∨ ¬ tree.Overwrites target target) ∧
        ∀ found, tree.Discards target found → (tree.erase found).resolve? path = .ok target := by
  obtain ⟨hpath, hleads⟩ := resolve?_eq_ok_iff.1 hresolve
  have hhome : after.workingDirectory = tree.workingDirectory := by
    have hsame := workingDirectory_save tree target bytes
    rwa [h] at hsame
  have hne : ∀ found, tree.Discards target found → found ≠ target := by
    rintro found ⟨hname, -⟩ rfl
    exact nameIn?_sibling_ne tree found hname
  have hiff := leads_of_save_error_iff (hreached.placeOf?_eq hentry) hentry h hleads
  simp only [resolve?_eq_ok_iff, hpath, hhome, true_and]
  rw [hiff]
  refine and_congr_right fun _ => forall₂_congr fun found hdiscards => ?_
  exact and_iff_right (hne found hdiscards)

/-- Whether no link stands in the place of the sibling. -/
def HasNoSiblingLink (tree : Tree) (target : Location) : Prop :=
  ∀ found link, tree.nameIn? (sibling target) = .ok found → tree.lookup? found ≠ some (.link link)

theorem Staged.retains_renamed {mode : Mode} {staged : Tree} {found : Location} {place : Place}
    (h : tree.Staged target bytes mode staged found place) (hlocation : place.location = found)
    {old : ByteArray} {mode' : Mode} (hentry : tree.lookup? target = some (.file old mode')) :
    Retains (tree.erase found) ((staged.erase found).put target (.file bytes mode)) where
  workingDirectory := h.retains.workingDirectory
  refusals := h.retains.refusals
  kept := by
    intro location entry hkept
    have hsibling : location ≠ found := by
      rintro rfl
      rw [lookup?_erase_self _ h.ne_nil] at hkept
      cases hkept
    rw [lookup?_erase_of_ne _ hsibling] at hkept
    by_cases heq : location = target
    · subst heq
      obtain rfl := Option.some.inj (hentry.symm.trans hkept)
      exact ⟨_, lookup?_put_self _ (ne_nil_of_file hentry) _, .file _ _ _ _⟩
    · refine ⟨entry, ?_, .same entry⟩
      rw [lookup?_put_of_ne _ heq, lookup?_erase_of_ne _ hsibling,
        h.others location (hlocation ▸ hsibling), hkept]

section Saved

variable {old : ByteArray} {mode : Mode} (hreached : tree.Reached target)
  (hentry : tree.lookup? target = some (.file old mode)) {saved : Tree}
  (h : tree.save target bytes = (.ok (), saved))
include hreached hentry h

theorem lookup?_target_of_save_ok (hnone : tree.HasNoSiblingLink target) :
    saved.lookup? target = some (.file bytes mode) := by
  obtain ⟨staged, found, place, entry, hstaged, hfound, -, rfl⟩ :=
    exists_staged_of_save_ok hreached hentry h
  have hlocation := hstaged.location_eq fun link => hnone found link hstaged.name
  rw [lookup?_put_self _ (ne_nil_of_file hentry), ← hfound, ← hlocation, hstaged.entry]

theorem lookup?_target_of_save_ok_iff :
    (∃ mode, saved.lookup? target = some (.file bytes mode)) ↔ tree.HasNoSiblingLink target := by
  constructor
  · rintro ⟨mode', heq⟩ found link hname hlink
    obtain ⟨staged, found', place, entry, hstaged, hfound, -, rfl⟩ :=
      exists_staged_of_save_ok hreached hentry h
    obtain rfl := Except.ok.inj (hstaged.name.symm.trans hname)
    rw [lookup?_put_self _ (ne_nil_of_file hentry)] at heq
    rw [hstaged.lookup?_found, hlink] at hfound
    cases (Option.some.inj hfound).trans (Option.some.inj heq)
  · intro hnone
    exact ⟨_, lookup?_target_of_save_ok hreached hentry h hnone⟩

/-- **With no link under the name of the sibling, every path that leads to the file still does**
when it is saved. -/
theorem resolve?_of_save_ok
    (hnone : tree.HasNoSiblingLink target) {path : String}
    (hresolve : tree.resolve? path = .ok target) : saved.resolve? path = .ok target := by
  obtain ⟨staged, found, place, entry, hstaged, hfound, hne, rfl⟩ :=
    exists_staged_of_save_ok hreached hentry h
  have hlocation := hstaged.location_eq fun link => hnone found link hstaged.name
  have htakes := hstaged.takesFile
  rw [hlocation] at htakes
  have hsibling := hstaged.entry
  rw [hlocation] at hsibling
  obtain rfl := Option.some.inj (hfound.symm.trans hsibling)
  exact (hstaged.retains_renamed hlocation hentry).resolve?_eq (resolve?_erase htakes hne.symm hresolve)

end Saved

end Accessors.Files.Tree
