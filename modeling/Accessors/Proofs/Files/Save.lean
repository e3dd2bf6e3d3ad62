import Accessors.Proofs.Files.Kept

/-!
# What a save leaves behind

Once the sibling is written the tree is `Staged`: the new file stands under the name of the sibling,
or where a link under that name leads to, and nothing else has changed. `Saving` lists the ways in
which a save can go from there, by the step that fails: the mode may be refused, and so may the
names when it comes to renaming.

If nothing stood under the name of the sibling, a save that fails leaves the tree as it was
(`alike_of_save_error`), since whoever may make a name may take it away. One that succeeds changes
nothing but the target (`lookup?_of_save_ok`).
-/

namespace Accessors.Files.Tree

variable {tree : Tree} {target : Location} {bytes : ByteArray}

/-! ## Siblings -/

theorem sibling_concat (here : Location) (name : String) :
    sibling (here ++ [name]) = here ++ [name ++ siblingSuffix] := by
  rw [sibling, List.dropLast_concat, List.getLast?_concat]
  rfl

theorem sibling_ne_nil (location : Location) : sibling location ≠ [] := by
  simp [sibling]

theorem length_siblingName (name : String) :
    (name ++ siblingSuffix).length = name.length + 17 := by
  rw [String.length_append]
  rfl

theorem siblingName_ne {other : String} (h : other.length < 17) (name : String) :
    name ++ siblingSuffix ≠ other := by
  rintro rfl
  rw [length_siblingName] at h
  omega

theorem siblingName_ne_self (name : String) : name ++ siblingSuffix ≠ name := by
  intro h
  have hlength := congrArg String.length h
  rw [length_siblingName] at hlength
  omega

theorem sibling_ne (location : Location) : sibling location ≠ location := by
  rcases List.eq_nil_or_concat' location with rfl | ⟨here, name, rfl⟩
  · exact List.cons_ne_nil _ _
  · rw [sibling_concat]
    intro h
    exact siblingName_ne_self name (List.cons.inj (List.append_cancel_left h)).1

theorem nameIn?_sibling_ne (tree : Tree) (location : Location) :
    tree.nameIn? (sibling location) ≠ .ok location := by
  intro h
  obtain ⟨here, directory, name, heq, -, -, -, -, hfound⟩ := nameIn?_eq_ok_iff.1 h
  subst hfound
  rw [sibling_concat] at heq
  obtain ⟨-, hname⟩ := List.append_inj' heq rfl
  exact siblingName_ne_self name (List.cons.inj hname).1

theorem eq_of_nameIn?_sibling {location found : Location} (h : tree.nameIn? target = .ok location)
    (hfound : tree.nameIn? (sibling target) = .ok found) : found = sibling location := by
  obtain ⟨here, directory, name, rfl, hleads, -, -, -, rfl⟩ := nameIn?_eq_ok_iff.1 h
  rw [sibling_concat] at hfound ⊢
  obtain ⟨here', directory', name', heq, hleads', -, -, -, rfl⟩ := nameIn?_eq_ok_iff.1 hfound
  obtain ⟨rfl, hname⟩ := List.append_inj' heq rfl
  have hplace := hleads.visit?_eq.symm.trans hleads'.visit?_eq
  obtain rfl : directory = directory' := by simpa using hplace
  rw [hname]

theorem placeOf?_sibling {place : Place} (h : tree.placeOf? (sibling target) true = .ok place) :
    ∃ found, tree.nameIn? (sibling target) = .ok found ∧
      (tree.lookup? found = none ∧ place = .vacant found ∨
        (∃ link, tree.lookup? found = some (.link link)) ∨
        ∃ entry, tree.lookup? found = some entry ∧ place = .occupied found) := by
  rw [sibling] at h ⊢
  generalize target.getLast?.getD "" = name at h ⊢
  have hstep : name ++ siblingSuffix ≠ Path.directoryStep := siblingName_ne (by decide) name
  have hstay : name ++ siblingSuffix ≠ "." := siblingName_ne (by decide) name
  have hup : name ++ siblingSuffix ≠ ".." := siblingName_ne (by decide) name
  obtain ⟨left, directory, hleads, hname⟩ := (leads_of_visit? h).of_concat
  obtain ⟨hdir, hisName, hstands⟩ := hname.name (by simp [hstay, hstep]) hup
  refine ⟨directory ++ [name ++ siblingSuffix], nameIn?_eq_ok_iff.2 ?_, hstands⟩
  exact ⟨target.dropLast, directory, _, rfl, hleads, hdir, by simp [hstay, hup], hisName.short, rfl⟩

/-! ## Steps -/

theorem allowName_eq_ok_iff {location : Location} :
    tree.allowName location = .ok () ↔ tree.refusals.name? location = none := by
  rw [allowName]
  split <;> simp_all

theorem of_rename {source : Location} {renamed : Tree}
    (h : tree.rename source target = .ok renamed) :
    ∃ here there entry, tree.nameIn? source = .ok here ∧ tree.nameIn? target = .ok there ∧
      tree.lookup? here = some entry ∧ tree.refusals.name? here = none ∧
      renamed = (tree.erase here).put there entry := by
  obtain ⟨here, hsource, h⟩ := bind_eq_ok_iff.1 h
  obtain ⟨there, htarget, h⟩ := bind_eq_ok_iff.1 h
  split at h
  · cases h
  · rename_i entry hentry
    obtain ⟨_, hallowed, h⟩ := bind_eq_ok_iff.1 h
    obtain ⟨_, -, h⟩ := bind_eq_ok_iff.1 h
    split at h
    · cases h
    · cases h
      exact ⟨here, there, entry, hsource, htarget, hentry, allowName_eq_ok_iff.1 hallowed, rfl⟩

theorem of_remove {location : Location} {removed : Tree}
    (h : tree.remove location = .ok removed) :
    ∃ found entry, tree.nameIn? location = .ok found ∧ tree.lookup? found = some entry ∧
      entry ≠ .directory ∧ tree.refusals.name? found = none ∧ removed = tree.erase found := by
  obtain ⟨found, hfound, h⟩ := bind_eq_ok_iff.1 h
  split at h
  · cases h
  · rename_i entry hentry
    obtain ⟨_, hallowed, h⟩ := bind_eq_ok_iff.1 h
    split at h
    · cases h
    · rename_i hdir
      cases h
      exact ⟨found, entry, hfound, hentry, hdir, allowName_eq_ok_iff.1 hallowed, rfl⟩

/-- Whether the user may write a file at a place: there is one that may be written, or its name may
be made. -/
def Writable (tree : Tree) : Place → Prop
  | .vacant location => tree.refusals.name? location = none
  | .occupied location =>
    ∃ bytes mode, tree.lookup? location = some (.file bytes mode) ∧ isWritable mode = true

theorem of_writeAt {links : Nat} {here : Location} {steps : List String} {place : Place}
    (hleads : tree.Leads links here steps place) {written : Tree}
    (h : tree.writeAt bytes place = .ok written) :
    tree.Writable place ∧ ∃ mode, written = tree.put place.location (.file bytes mode) ∧
      ∀ bytes' mode', tree.lookup? place.location = some (.file bytes' mode') → mode' = mode := by
  cases place with
  | vacant location =>
    obtain ⟨_, hallowed, h⟩ := bind_eq_ok_iff.1 h
    cases h
    refine ⟨allowName_eq_ok_iff.1 hallowed, defaultMode, rfl, fun _ _ hentry => ?_⟩
    cases hleads.free.1.symm.trans hentry
  | occupied location =>
    rw [writeAt] at h
    split at h
    · rename_i bytes' mode hentry
      split at h
      · rename_i hmode
        cases h
        refine ⟨⟨bytes', mode, hentry, hmode⟩, mode, rfl, fun _ mode' hentry' => ?_⟩
        exact (Entry.file.inj (Option.some.inj (hentry'.symm.trans hentry))).2
      · cases h
    · cases h

theorem exists_writeAt {place : Place} (h : tree.Writable place) (bytes : ByteArray) :
    ∃ written, tree.writeAt bytes place = .ok written := by
  cases place with
  | vacant location =>
    have hallowed : tree.allowName location = .ok () := allowName_eq_ok_iff.2 h
    exact ⟨_, by rw [writeAt, hallowed]; rfl⟩
  | occupied location =>
    obtain ⟨_, mode, hentry, hmode⟩ := h
    exact ⟨_, by rw [writeAt, hentry]; exact if_pos hmode⟩

/-! ## Files that are put -/

/-- Whether a file can be put at a location: the location is free, or it has a file. -/
def TakesFile (tree : Tree) (location : Location) : Prop :=
  location ≠ [] ∧
    ∀ entry, tree.lookup? location = some entry → ∃ bytes mode, entry = .file bytes mode

theorem retains_put {location : Location} (h : tree.TakesFile location) (bytes : ByteArray)
    (mode : Mode) : tree.Retains (tree.put location (.file bytes mode)) where
  workingDirectory := rfl
  refusals := rfl
  kept := by
    intro other entry hentry
    by_cases heq : other = location
    · subst heq
      obtain ⟨bytes', mode', rfl⟩ := h.2 _ hentry
      exact ⟨_, lookup?_put_self tree h.1 _, .file _ _ _ _⟩
    · exact ⟨entry, by rwa [lookup?_put_of_ne tree heq], .same entry⟩

theorem takesFile_of_leads {links : Nat} {here : Location} {steps : List String} {place : Place}
    (hleads : tree.Leads links here steps place) (h : tree.Writable place) :
    tree.TakesFile place.location := by
  cases place with
  | vacant location =>
    obtain ⟨hfree, hne⟩ := hleads.free
    exact ⟨hne, by simp [Place.location, hfree]⟩
  | occupied location =>
    obtain ⟨bytes, mode, hentry, -⟩ := h
    refine ⟨ne_nil_of_file hentry, fun entry hstands => ?_⟩
    exact ⟨bytes, mode, Option.some.inj (hstands.symm.trans hentry)⟩

/-! ## Siblings that are written -/

/-- How a tree is once the sibling is written: a file with the bytes and some mode stands under the
name of the sibling, or where a link under that name leads to. -/
structure Staged (tree : Tree) (target : Location) (bytes : ByteArray) (mode : Mode) (staged : Tree)
    (found : Location) (place : Place) : Prop where
  name : tree.nameIn? (sibling target) = .ok found
  leads : tree.placeOf? (sibling target) true = .ok place
  writable : tree.Writable place
  stands : tree.lookup? found = none ∧ place = .vacant found ∨
    (∃ link, tree.lookup? found = some (.link link)) ∧ place.location ≠ found ∨
    (∃ bytes mode, tree.lookup? found = some (.file bytes mode)) ∧ place = .occupied found
  retains : tree.Retains staged
  entry : staged.lookup? place.location = some (.file bytes mode)
  others : ∀ other, other ≠ place.location → staged.lookup? other = tree.lookup? other

theorem exists_staged {written : Tree}
    (h : (tree.placeOf? (sibling target) true >>= tree.writeAt bytes) = .ok written) :
    ∃ mode found place, tree.Staged target bytes mode written found place ∧
      ∀ bytes' mode', tree.lookup? place.location = some (.file bytes' mode') → mode' = mode := by
  obtain ⟨place, hplace, hwritten⟩ := bind_eq_ok_iff.1 h
  obtain ⟨found, hname, hstands⟩ := placeOf?_sibling hplace
  have hleads := leads_of_visit? hplace
  obtain ⟨hwritable, mode, rfl, hmode⟩ := of_writeAt hleads hwritten
  have htakes := takesFile_of_leads hleads hwritable
  refine ⟨mode, found, place, ⟨hname, hplace, hwritable, ?_, retains_put htakes bytes mode,
    lookup?_put_self tree htakes.1 _, fun other hne => lookup?_put_of_ne tree hne _⟩, hmode⟩
  rcases hstands with ⟨hnone, rfl⟩ | ⟨link, hlink⟩ | ⟨entry, hstands, rfl⟩
  · exact .inl ⟨hnone, rfl⟩
  · -- what is written is a file, and cannot be under the name of the link
    refine .inr (.inl ⟨⟨link, hlink⟩, fun heq => ?_⟩)
    obtain ⟨_, _, hfile⟩ := htakes.2 _ (heq ▸ hlink)
    cases hfile
  · obtain ⟨bytes', mode', rfl⟩ := htakes.2 _ hstands
    exact .inr (.inr ⟨⟨bytes', mode', hstands⟩, rfl⟩)

namespace Staged

variable {mode : Mode} {staged : Tree} {found : Location} {place : Place}

theorem setMode_eq (h : tree.Staged target bytes mode staged found place) (mode' : Mode) :
    (staged.placeOf? (sibling target) >>= staged.setModeAt mode') =
      (staged.allowMode place.location).map fun _ =>
        staged.put place.location (.file bytes mode') := by
  have hleads : staged.Leads maxLinks [] (sibling target) (.occupied place.location) := by
    refine h.retains.leads (leads_of_visit? h.leads) fun vacant hvacant => ?_
    have hentry := h.entry
    rw [hvacant] at hentry
    exact ⟨bytes, mode, hentry⟩
  have hplace : staged.placeOf? (sibling target) = .ok (.occupied place.location) :=
    hleads.visit?_eq
  rw [hplace]
  show setModeAt staged mode' (.occupied place.location) = _
  rw [setModeAt, h.entry]
  cases staged.allowMode place.location <;> rfl

theorem setMode (h : tree.Staged target bytes mode staged found place) {mode' : Mode} {ready : Tree}
    (hready : (staged.placeOf? (sibling target) >>= staged.setModeAt mode') = .ok ready) :
    tree.refusals.mode? place.location = none ∧
      tree.Staged target bytes mode' ready found place := by
  rw [h.setMode_eq, map_eq_ok_iff] at hready
  obtain ⟨_, hallowed, rfl⟩ := hready
  rw [allowMode, h.retains.refusals] at hallowed
  have hne : place.location ≠ [] := ne_nil_of_file h.entry
  have htakes : staged.TakesFile place.location :=
    ⟨hne, fun entry hentry => ⟨bytes, mode, Option.some.inj (hentry.symm.trans h.entry)⟩⟩
  constructor
  · split at hallowed
    · cases hallowed
    · assumption
  · refine
      { h with
        retains := h.retains.trans (retains_put htakes bytes mode')
        entry := lookup?_put_self staged hne _
        others := fun other hother => ?_ }
    rw [lookup?_put_of_ne staged hother, h.others other hother]

theorem refused (h : tree.Staged target bytes mode staged found place) {mode' : Mode} {fault : Fault}
    (hfault : (staged.placeOf? (sibling target) >>= staged.setModeAt mode') = .error fault) :
    tree.refusals.mode? place.location = some fault := by
  rw [h.setMode_eq, map_eq_error_iff, allowMode, h.retains.refusals] at hfault
  split at hfault
  · rename_i fault' hrefused
    rw [hrefused, Except.error.inj hfault]
  · cases hfault

theorem lookup?_found (h : tree.Staged target bytes mode staged found place) :
    staged.lookup? found =
      match tree.lookup? found with
      | some (.link link) => some (.link link)
      | _ => some (.file bytes mode) := by
  have hentry := h.entry
  rcases h.stands with ⟨hnone, rfl⟩ | ⟨⟨link, hlink⟩, hne⟩ | ⟨⟨bytes', mode', hfile⟩, rfl⟩
  · rw [hnone]
    exact hentry
  · rw [hlink, h.retains.link hlink]
  · rw [hfile]
    exact hentry

theorem not_directory (h : tree.Staged target bytes mode staged found place) :
    tree.lookup? found ≠ some .directory := by
  intro hdir
  rcases h.stands with ⟨hnone, -⟩ | ⟨⟨link, hlink⟩, -⟩ | ⟨⟨bytes', mode', hfile⟩, -⟩
  · cases hdir.symm.trans hnone
  · cases hdir.symm.trans hlink
  · cases hdir.symm.trans hfile

theorem ne_nil (h : tree.Staged target bytes mode staged found place) : found ≠ [] :=
  ne_nil_of_not_directory h.not_directory

theorem allowed (h : tree.Staged target bytes mode staged found place)
    (hnone : tree.lookup? found = none) : tree.refusals.name? found = none := by
  rcases h.stands with ⟨-, rfl⟩ | ⟨⟨link, hlink⟩, -⟩ | ⟨⟨_, _, hfile⟩, -⟩
  · exact h.writable
  · cases hnone.symm.trans hlink
  · cases hnone.symm.trans hfile

theorem location_eq (h : tree.Staged target bytes mode staged found place)
    (hnone : ∀ link, tree.lookup? found ≠ some (.link link)) : place.location = found := by
  rcases h.stands with ⟨-, rfl⟩ | ⟨⟨link, hlink⟩, -⟩ | ⟨-, rfl⟩
  · rfl
  · exact absurd hlink (hnone link)
  · rfl

theorem takesFile (h : tree.Staged target bytes mode staged found place) :
    tree.TakesFile place.location :=
  takesFile_of_leads (leads_of_visit? h.leads) h.writable

theorem exists_lookup?_found (h : tree.Staged target bytes mode staged found place) :
    ∃ entry, staged.lookup? found = some entry ∧ entry ≠ .directory := by
  rw [h.lookup?_found]
  split
  · exact ⟨_, rfl, by simp⟩
  · exact ⟨_, rfl, by simp⟩

theorem nameIn?_eq (h : tree.Staged target bytes mode staged found place) :
    staged.nameIn? (sibling target) = .ok found :=
  h.retains.nameIn?_eq h.name

theorem nameIn?_of_staged (h : tree.Staged target bytes mode staged found place)
    {location : Location} (hname : staged.nameIn? target = .ok location) :
    tree.nameIn? target = .ok location := by
  obtain ⟨here, directory, name, rfl, hleads', -, hdots, hshort, rfl⟩ := nameIn?_eq_ok_iff.1 hname
  have hsibling := h.name
  rw [sibling_concat] at hsibling
  obtain ⟨here', directory', name', heq, hleads, hdir, -, -, -⟩ := nameIn?_eq_ok_iff.1 hsibling
  obtain ⟨rfl, -⟩ := List.append_inj' heq rfl
  have hplace := (h.retains.leads_occupied hleads).visit?_eq.symm.trans hleads'.visit?_eq
  obtain rfl : directory' = directory := by simpa using hplace
  exact nameIn?_eq_ok_iff.2 ⟨here, directory', name, rfl, hleads, hdir, hdots, hshort, rfl⟩

theorem of_renamed (h : tree.Staged target bytes mode staged found place) {saved : Tree}
    (hrename : staged.rename (sibling target) target = .ok saved) :
    ∃ location entry, tree.nameIn? target = .ok location ∧ staged.lookup? found = some entry ∧
      location ≠ found ∧ tree.refusals.name? found = none ∧
      saved = (staged.erase found).put location entry := by
  obtain ⟨here, location, entry, hsource, htarget, hentry, hallowed, rfl⟩ := of_rename hrename
  obtain rfl := Except.ok.inj (hsource.symm.trans h.nameIn?_eq)
  have hname := h.nameIn?_of_staged htarget
  have hne : location ≠ here := by
    rw [eq_of_nameIn?_sibling hname h.name]
    exact (sibling_ne location).symm
  rw [h.retains.refusals] at hallowed
  exact ⟨location, entry, hname, hentry, hne, hallowed, rfl⟩

end Staged

/-! ## Saves -/

/-- The ways in which a save can go, by the step that fails. -/
inductive Saving (tree : Tree) (target : Location) (bytes : ByteArray) :
    Except Fault Unit × Tree → Prop
  /-- There is nothing to take the mode from. -/
  | noMode {fault : Fault} (hmode : (tree.placeOf? target >>= tree.modeAt?) = .error fault) :
      Saving tree target bytes (.error fault, tree)
  | notWritten {fault : Fault} {mode : Mode}
      (hmode : (tree.placeOf? target >>= tree.modeAt?) = .ok mode)
      (hwrite : (tree.placeOf? (sibling target) true >>= tree.writeAt bytes) = .error fault) :
      Saving tree target bytes (.error fault, tree.discard (sibling target))
  /-- The mode is refused; a file that was there still has its own. -/
  | notReady {fault : Fault} {mode mode' : Mode} {staged : Tree} {found : Location} {place : Place}
      (hmode : (tree.placeOf? target >>= tree.modeAt?) = .ok mode)
      (hstaged : tree.Staged target bytes mode' staged found place)
      (hkept : ∀ bytes' mode'', tree.lookup? place.location = some (.file bytes' mode'') →
        mode'' = mode')
      (hrefused : tree.refusals.mode? place.location = some fault) :
      Saving tree target bytes (.error fault, staged.discard (sibling target))
  | notRenamed {fault : Fault} {mode : Mode} {staged : Tree} {found : Location} {place : Place}
      (hmode : (tree.placeOf? target >>= tree.modeAt?) = .ok mode)
      (hstaged : tree.Staged target bytes mode staged found place)
      (hallowed : tree.refusals.mode? place.location = none)
      (hrename : staged.rename (sibling target) target = .error fault) :
      Saving tree target bytes (.error fault, staged.discard (sibling target))
  | saved {mode : Mode} {staged saved : Tree} {found : Location} {place : Place}
      (hmode : (tree.placeOf? target >>= tree.modeAt?) = .ok mode)
      (hstaged : tree.Staged target bytes mode staged found place)
      (hrename : staged.rename (sibling target) target = .ok saved) :
      Saving tree target bytes (.ok (), saved)

theorem saving_save (tree : Tree) (target : Location) (bytes : ByteArray) :
    tree.Saving target bytes (tree.save target bytes) := by
  rw [save]
  cases hmode : tree.placeOf? target >>= tree.modeAt? with
  | error fault => exact .noMode hmode
  | ok mode =>
    simp only [replacement, perform]
    cases hwrite : tree.placeOf? (sibling target) true >>= tree.writeAt bytes with
    | error fault => exact .notWritten hmode hwrite
    | ok written =>
      obtain ⟨mode', found, place, hstaged, hkept⟩ := exists_staged hwrite
      simp only
      cases hready : written.placeOf? (sibling target) >>= written.setModeAt mode with
      | error fault => exact .notReady hmode hstaged hkept (hstaged.refused hready)
      | ok ready =>
        obtain ⟨hallowed, hstaged⟩ := hstaged.setMode hready
        simp only
        cases hrename : ready.rename (sibling target) target with
        | error fault => exact .notRenamed hmode hstaged hallowed hrename
        | ok saved => exact .saved hmode hstaged hrename

theorem exists_staged_of_save_ok {old : ByteArray} {mode : Mode} (hreached : tree.Reached target)
    (hentry : tree.lookup? target = some (.file old mode)) {saved : Tree}
    (h : tree.save target bytes = (.ok (), saved)) :
    ∃ staged found place entry, tree.Staged target bytes mode staged found place ∧
      staged.lookup? found = some entry ∧ found ≠ target ∧
      saved = (staged.erase found).put target entry := by
  have hname : tree.nameIn? target = .ok target := hreached.nameIn?_eq (ne_nil_of_file hentry)
  have hsaving := saving_save tree target bytes
  rw [h] at hsaving
  cases hsaving with
  | @saved _ staged _ found place hmode hstaged hrename =>
    obtain rfl := Except.ok.inj ((hreached.mode_eq hentry).symm.trans hmode)
    obtain ⟨location, entry, hlocation, hfound, hne, -, rfl⟩ := hstaged.of_renamed hrename
    obtain rfl := Except.ok.inj (hname.symm.trans hlocation)
    exact ⟨staged, found, place, entry, hstaged, hfound, hne.symm, rfl⟩

/-! ## Siblings that are taken away -/

theorem remove_eq {location found : Location} {entry : Entry}
    (hname : tree.nameIn? location = .ok found) (hentry : tree.lookup? found = some entry)
    (hdir : entry ≠ .directory) (hallowed : tree.refusals.name? found = none) :
    tree.remove location = .ok (tree.erase found) := by
  have hallow : tree.allowName found = .ok () := allowName_eq_ok_iff.2 hallowed
  simp only [remove, hname, hentry, hallow, bind, Except.bind]
  cases entry with
  | directory => exact absurd rfl hdir
  | file => rfl
  | link => rfl

theorem discard_cases (tree : Tree) (location : Location) :
    tree.discard location = tree ∨ ∃ found entry, tree.nameIn? location = .ok found ∧
      tree.lookup? found = some entry ∧ entry ≠ .directory ∧ tree.refusals.name? found = none ∧
      tree.discard location = tree.erase found := by
  rw [discard]
  split
  · rename_i removed hremoved
    obtain ⟨found, entry, hfound, hentry, hdir, hallowed, rfl⟩ := of_remove hremoved
    exact .inr ⟨found, entry, hfound, hentry, hdir, hallowed, rfl⟩
  · exact .inl rfl

theorem discard_eq_self {location found : Location} (hname : tree.nameIn? location = .ok found)
    (h : tree.lookup? found = none ∨ tree.lookup? found = some .directory ∨
      ∃ fault, tree.refusals.name? found = some fault) : tree.discard location = tree := by
  rcases discard_cases tree location with heq | ⟨found', entry, hfound, hentry, hdir, hallowed, -⟩
  · exact heq
  · obtain rfl := Except.ok.inj (hname.symm.trans hfound)
    rcases h with hnone | hdirectory | ⟨fault, hrefused⟩
    · cases hnone.symm.trans hentry
    · exact absurd (Option.some.inj (hentry.symm.trans hdirectory)) hdir
    · cases hallowed.symm.trans hrefused

theorem lookup?_discard_of_ne (tree : Tree) {location other : Location}
    (h : tree.nameIn? location ≠ .ok other) :
    Tree.lookup? (tree.discard location) other = tree.lookup? other := by
  rcases discard_cases tree location with heq | ⟨found, _, hfound, -, -, -, heq⟩
  · rw [heq]
  · rw [heq]
    apply lookup?_erase_of_ne
    rintro rfl
    exact h hfound

theorem lookup?_discard_self {location found : Location} (hname : tree.nameIn? location = .ok found)
    (hdir : tree.lookup? found ≠ some .directory) (hallowed : tree.refusals.name? found = none) :
    Tree.lookup? (tree.discard location) found = none := by
  cases hentry : tree.lookup? found with
  | none => rw [discard_eq_self hname (.inl hentry), hentry]
  | some entry =>
    have hne : entry ≠ .directory := by
      rintro rfl
      exact hdir hentry
    rw [discard, remove_eq hname hentry hne hallowed]
    exact lookup?_erase_self tree (ne_nil_of_not_directory hdir)

theorem workingDirectory_discard (tree : Tree) (location : Location) :
    (tree.discard location).workingDirectory = tree.workingDirectory := by
  rcases discard_cases tree location with heq | ⟨_, _, -, -, -, -, heq⟩
  · rw [heq]
  · rw [heq]
    rfl

theorem workingDirectory_save (tree : Tree) (target : Location) (bytes : ByteArray) :
    (tree.save target bytes).2.workingDirectory = tree.workingDirectory := by
  have hsaving := saving_save tree target bytes
  generalize tree.save target bytes = result at hsaving
  cases hsaving with
  | noMode => rfl
  | notWritten => exact workingDirectory_discard _ _
  | notReady _ hstaged =>
    exact (workingDirectory_discard _ _).trans hstaged.retains.workingDirectory
  | notRenamed _ hstaged =>
    exact (workingDirectory_discard _ _).trans hstaged.retains.workingDirectory
  | saved _ hstaged hrename =>
    obtain ⟨_, _, -, -, -, -, rfl⟩ := hstaged.of_renamed hrename
    exact hstaged.retains.workingDirectory

/-! ## Free names -/

/-- Whether two trees have the same entries, working directory and refusals. -/
structure Alike (tree tree' : Tree) : Prop where
  workingDirectory : tree'.workingDirectory = tree.workingDirectory
  refusals : tree'.refusals = tree.refusals
  lookup? : ∀ location, tree'.lookup? location = tree.lookup? location

theorem Alike.refl (tree : Tree) : tree.Alike tree :=
  ⟨rfl, rfl, fun _ => rfl⟩

theorem Alike.retains {tree' : Tree} (h : tree.Alike tree') : tree.Retains tree' where
  workingDirectory := h.workingDirectory
  refusals := h.refusals
  kept := fun {location entry} hentry => ⟨entry, (h.lookup? location).trans hentry, .same entry⟩

theorem Staged.alike_discard {mode : Mode} {staged : Tree} {found : Location}
    (h : tree.Staged target bytes mode staged found (.vacant found)) :
    tree.Alike (staged.discard (sibling target)) := by
  have hfree : tree.lookup? found = none := (leads_of_visit? h.leads).free.1
  have hallowed : staged.refusals.name? found = none := by
    rw [h.retains.refusals]
    exact h.writable
  have hdiscard : staged.discard (sibling target) = staged.erase found := by
    rw [discard, remove_eq h.nameIn?_eq h.entry (by simp) hallowed]
  rw [hdiscard]
  refine ⟨h.retains.workingDirectory, h.retains.refusals, fun other => ?_⟩
  by_cases heq : other = found
  · rw [heq, lookup?_erase_self staged h.ne_nil, hfree]
  · rw [lookup?_erase_of_ne staged heq, h.others other heq]

/-- Whether neither a file nor a link stands in the place of the sibling. -/
def HasNoSibling (tree : Tree) (target : Location) : Prop :=
  ∀ found entry, tree.nameIn? (sibling target) = .ok found → tree.lookup? found = some entry →
    entry = .directory

theorem Staged.eq_vacant {mode : Mode} {staged : Tree} {found : Location} {place : Place}
    (h : tree.Staged target bytes mode staged found place) (hnone : tree.HasNoSibling target) :
    place = .vacant found := by
  rcases h.stands with ⟨-, rfl⟩ | ⟨⟨link, hlink⟩, -⟩ | ⟨⟨_, _, hfile⟩, -⟩
  · rfl
  · cases hnone _ _ h.name hlink
  · cases hnone _ _ h.name hfile

/-- **With no sibling to begin with, a save that fails leaves the tree as it was.** -/
theorem alike_of_save_error (hnone : tree.HasNoSibling target) {fault : Fault} {after : Tree}
    (h : tree.save target bytes = (.error fault, after)) : tree.Alike after := by
  have hsaving := saving_save tree target bytes
  rw [h] at hsaving
  cases hsaving with
  | noMode => exact .refl tree
  | notWritten =>
    rcases discard_cases tree (sibling target) with heq | ⟨found, entry, hfound, hsome, hdir, -⟩
    · rw [heq]
      exact .refl tree
    · exact absurd (hnone found entry hfound hsome) hdir
  | notReady _ hstaged =>
    obtain rfl := hstaged.eq_vacant hnone
    exact hstaged.alike_discard
  | notRenamed _ hstaged =>
    obtain rfl := hstaged.eq_vacant hnone
    exact hstaged.alike_discard

section Free

variable {old : ByteArray} {mode : Mode} (hreached : tree.Reached target)
  (hentry : tree.lookup? target = some (.file old mode))
  (hfree : tree.lookup? (sibling target) = none)
include hreached hentry hfree

theorem hasNoSibling_of_free : tree.HasNoSibling target := by
  have hname : tree.nameIn? target = .ok target := hreached.nameIn?_eq (ne_nil_of_file hentry)
  intro found entry hfound hsome
  obtain rfl := eq_of_nameIn?_sibling hname hfound
  cases hfree.symm.trans hsome

theorem lookup?_of_save_ok {saved : Tree} (h : tree.save target bytes = (.ok (), saved)) :
    saved.workingDirectory = tree.workingDirectory ∧ saved.refusals = tree.refusals ∧
      saved.lookup? target = some (.file bytes mode) ∧
      ∀ other, other ≠ target → saved.lookup? other = tree.lookup? other := by
  obtain ⟨staged, found, place, entry, hstaged, hfound, -, rfl⟩ :=
    exists_staged_of_save_ok hreached hentry h
  -- the sibling is written under its own name and taken away from there
  have hname : tree.nameIn? target = .ok target := hreached.nameIn?_eq (ne_nil_of_file hentry)
  obtain rfl := eq_of_nameIn?_sibling hname hstaged.name
  obtain rfl := hstaged.eq_vacant (hasNoSibling_of_free hreached hentry hfree)
  obtain rfl := Option.some.inj (hfound.symm.trans hstaged.entry)
  refine ⟨hstaged.retains.workingDirectory, hstaged.retains.refusals,
    lookup?_put_self _ (ne_nil_of_file hentry) _, ?_⟩
  intro other hne
  rw [lookup?_put_of_ne _ hne]
  by_cases heq : other = sibling target
  · rw [heq, lookup?_erase_self _ (sibling_ne_nil target), hfree]
  · rw [lookup?_erase_of_ne _ heq]
    exact hstaged.others other heq

theorem retains_of_save_ok {saved : Tree} (h : tree.save target bytes = (.ok (), saved)) :
    tree.Retains saved := by
  obtain ⟨hdirectory, hrefusals, hfile, hothers⟩ := lookup?_of_save_ok hreached hentry hfree h
  refine ⟨hdirectory, hrefusals, ?_⟩
  intro location entry hlocation
  by_cases heq : location = target
  · subst heq
    obtain rfl := Option.some.inj (hentry.symm.trans hlocation)
    exact ⟨_, hfile, .file _ _ _ _⟩
  · exact ⟨entry, by rwa [hothers location heq], .same entry⟩

end Free

end Accessors.Files.Tree
