import Accessors.Files.Save
import Accessors.Proofs.Result
import Mathlib.Data.List.Basic

/-!
# Ways through a file tree

A `Way` is what `walk` takes when it leads somewhere: to where the steps end, or to the first link.
`Leads` puts ways together through links, and is what `visit?` finds (`leads_of_visit?`,
`Leads.visit?_eq`).

A way to a name goes through the directory that the name stands in (`Leads.of_concat`), and it ends
there unless a link stands under the name (`Leads.name`).
-/

namespace Accessors.Files.Tree

variable {tree : Tree}

/-! ## Entries -/

theorem lookup?_put_self (tree : Tree) {location : Location} (h : location ≠ []) (entry : Entry) :
    Tree.lookup? (tree.put location entry) location = some entry := by
  rw [lookup?, if_neg h, put]
  simp

theorem lookup?_put_of_ne (tree : Tree) {location other : Location} (h : other ≠ location)
    (entry : Entry) : Tree.lookup? (tree.put location entry) other = tree.lookup? other := by
  rw [lookup?, lookup?, put]
  simp only [Std.TreeMap.getElem?_insert, Std.LawfulEqCmp.compare_eq_iff_eq, h.symm, if_false]

theorem lookup?_erase_self (tree : Tree) {location : Location} (h : location ≠ []) :
    Tree.lookup? (tree.erase location) location = none := by
  rw [lookup?, if_neg h, erase]
  simp

theorem lookup?_erase_of_ne (tree : Tree) {location other : Location} (h : other ≠ location) :
    Tree.lookup? (tree.erase location) other = tree.lookup? other := by
  rw [lookup?, lookup?, erase]
  simp only [Std.TreeMap.getElem?_erase, Std.LawfulEqCmp.compare_eq_iff_eq, h.symm, if_false]

theorem isDirectory_iff {location : Location} :
    tree.isDirectory location = true ↔ tree.lookup? location = some .directory := by
  rw [isDirectory]
  split <;> simp_all

theorem ne_nil_of_not_directory {location : Location}
    (h : tree.lookup? location ≠ some .directory) : location ≠ [] := by
  rintro rfl
  exact h (by rw [lookup?, if_pos rfl])

theorem ne_nil_of_file {location : Location} {bytes : ByteArray} {mode : Mode}
    (h : tree.lookup? location = some (.file bytes mode)) : location ≠ [] :=
  ne_nil_of_not_directory (by rw [h]; simp)

/-! ## Ways -/

/-- Whether a step leads to the entry of that name: it is no step that stays or goes up, and not too
long. -/
structure IsName (name : String) : Prop where
  not_here : name ≠ "."
  not_slash : name ≠ Path.directoryStep
  not_up : name ≠ ".."
  short : name.utf8ByteSize ≤ maxNameBytes

theorem isName_of {step : String} (hstay : ¬ (step = "." ∨ step = Path.directoryStep))
    (hup : step ≠ "..") (hlong : ¬ maxNameBytes < step.utf8ByteSize) : IsName step where
  not_here := fun h => hstay (.inl h)
  not_slash := fun h => hstay (.inr h)
  not_up := hup
  short := Nat.not_lt.1 hlong

theorem IsName.not_stay {step : String} (hname : IsName step) :
    ¬ (step = "." ∨ step = Path.directoryStep) := by
  rintro (h | h)
  · exact hname.not_here h
  · exact hname.not_slash h

/-- The ways that lead somewhere, by their steps: to where they end, or to the first link. -/
inductive Way (tree : Tree) : Location → List String → Walk → Prop
  | arrived {here : Location} : Way tree here [] (.arrived (.occupied here))
  | stay {here : Location} {step : String} {rest : List String} {w : Walk}
      (hdir : tree.isDirectory here = true) (hstay : step = "." ∨ step = Path.directoryStep)
      (h : Way tree here rest w) : Way tree here (step :: rest) w
  | up {here : Location} {rest : List String} {w : Walk} (hdir : tree.isDirectory here = true)
      (h : Way tree here.dropLast rest w) : Way tree here (".." :: rest) w
  | vacant {here : Location} {step : String} (hdir : tree.isDirectory here = true)
      (hname : IsName step) (hnone : tree.lookup? (here ++ [step]) = none) :
      Way tree here [step] (.arrived (.vacant (here ++ [step])))
  | link {here : Location} {step target : String} {rest : List String}
      (hdir : tree.isDirectory here = true) (hname : IsName step)
      (hentry : tree.lookup? (here ++ [step]) = some (.link target)) :
      Way tree here (step :: rest) (.atLink here target rest)
  | enter {here : Location} {step : String} {rest : List String} {entry : Entry} {w : Walk}
      (hdir : tree.isDirectory here = true) (hname : IsName step)
      (hentry : tree.lookup? (here ++ [step]) = some entry) (hlink : ∀ target, entry ≠ .link target)
      (h : Way tree (here ++ [step]) rest w) : Way tree here (step :: rest) w

section Step

variable {creating : Bool} {here : Location} {step : String} {rest : List String}

theorem walk_stay (hdir : tree.isDirectory here = true)
    (hstay : step = "." ∨ step = Path.directoryStep) :
    tree.walk creating here (step :: rest) = tree.walk creating here rest := by
  rw [walk, hdir, if_neg (by simp), if_pos hstay]

theorem walk_up (hdir : tree.isDirectory here = true) :
    tree.walk creating here (".." :: rest) = tree.walk creating here.dropLast rest := by
  rw [walk, hdir, if_neg (by simp), if_neg (by decide), if_pos rfl]

theorem walk_name (hdir : tree.isDirectory here = true) (hname : IsName step)
    (hslash : (creating && isTrailingSlash rest) = false) :
    tree.walk creating here (step :: rest) =
      match tree.lookup? (here ++ [step]) with
      | none => if rest.isEmpty then .arrived (.vacant (here ++ [step])) else .failed .notFound
      | some (.link target) => .atLink here target rest
      | some _ => tree.walk creating (here ++ [step]) rest := by
  have hwalk := walk.eq_2 tree creating here step rest
  rw [hdir, if_neg (by simp), if_neg hname.not_stay, if_neg hname.not_up, hslash,
    if_neg (by simp), if_neg (Nat.not_lt.2 hname.short)] at hwalk
  exact hwalk

theorem walk_vacant (hdir : tree.isDirectory here = true) (hname : IsName step)
    (hnone : tree.lookup? (here ++ [step]) = none) :
    tree.walk creating here [step] = .arrived (.vacant (here ++ [step])) := by
  have hslash : (creating && isTrailingSlash []) = false := by simp [isTrailingSlash]
  rw [walk_name hdir hname hslash, hnone]
  rfl

theorem walk_link {target : String} (hdir : tree.isDirectory here = true) (hname : IsName step)
    (hslash : (creating && isTrailingSlash rest) = false)
    (hentry : tree.lookup? (here ++ [step]) = some (.link target)) :
    tree.walk creating here (step :: rest) = .atLink here target rest := by
  rw [walk_name hdir hname hslash, hentry]

theorem walk_enter {entry : Entry} (hdir : tree.isDirectory here = true) (hname : IsName step)
    (hslash : (creating && isTrailingSlash rest) = false)
    (hentry : tree.lookup? (here ++ [step]) = some entry) (hlink : ∀ target, entry ≠ .link target) :
    tree.walk creating here (step :: rest) = tree.walk creating (here ++ [step]) rest := by
  rw [walk_name hdir hname hslash, hentry]
  cases entry with
  | file => rfl
  | directory => rfl
  | link target => exact absurd rfl (hlink target)

end Step

theorem way_of_walk {creating : Bool} {here : Location} {steps : List String} {w : Walk}
    (hwalk : tree.walk creating here steps = w) (h : ∀ fault, w ≠ .failed fault) :
    tree.Way here steps w := by
  subst hwalk
  fun_induction walk tree creating here steps with
  | case1 here => exact .arrived
  | case2 => exact absurd rfl (h _)
  | case3 here step rest hdir hstay ih => exact .stay (by simpa using hdir) hstay (ih h)
  | case4 here rest hdir hstay ih => exact .up (by simpa using hdir) (ih h)
  | case5 => exact absurd rfl (h _)
  | case6 => exact absurd rfl (h _)
  | case7 here step rest hdir hstay hup hslash hlong hnone hrest =>
    obtain rfl : rest = [] := List.isEmpty_iff.1 hrest
    exact .vacant (by simpa using hdir) (isName_of hstay hup hlong) hnone
  | case8 => exact absurd rfl (h _)
  | case9 here step rest hdir hstay hup hslash hlong target hlink =>
    exact .link (by simpa using hdir) (isName_of hstay hup hlong) hlink
  | case10 here step rest hdir hstay hup hslash hlong entry hlink hentry ih =>
    exact .enter (by simpa using hdir) (isName_of hstay hup hlong) hentry hlink (ih h)

theorem Way.walk_eq {here : Location} {steps : List String} {w : Walk}
    (h : tree.Way here steps w) : tree.walk false here steps = w := by
  induction h with
  | arrived => rw [walk]
  | stay hdir hstay _ ih => rw [walk_stay hdir hstay, ih]
  | up hdir _ ih => rw [walk_up hdir, ih]
  | vacant hdir hname hnone => rw [walk_vacant hdir hname hnone]
  | link hdir hname hentry => rw [walk_link hdir hname rfl hentry]
  | enter hdir hname hentry hlink _ ih => rw [walk_enter hdir hname rfl hentry hlink, ih]

/-! ## Ways through links -/

/-- Where steps lead from a location through no more than so many links. -/
inductive Leads (tree : Tree) : Nat → Location → List String → Place → Prop
  | direct {links : Nat} {here : Location} {steps : List String} {place : Place}
      (h : tree.Way here steps (.arrived place)) : Leads tree links here steps place
  | through {links : Nat} {here directory : Location} {steps rest : List String} {target : String}
      {place : Place} (h : tree.Way here steps (.atLink directory target rest))
      (hrest : Leads tree links (start directory target) (Path.steps target ++ rest) place) :
      Leads tree (links + 1) here steps place

theorem leads_of_visit? {creating : Bool} {links : Nat} {here : Location} {steps : List String}
    {place : Place} (h : tree.visit? creating links here steps = .ok place) :
    tree.Leads links here steps place := by
  fun_induction visit? tree creating links here steps with
  | case1 links here steps found hwalk =>
    obtain rfl := Except.ok.inj h
    exact .direct (way_of_walk hwalk (by simp))
  | case2 => cases h
  | case3 => cases h
  | case4 here steps directory target rest hwalk links ih =>
    exact .through (way_of_walk hwalk (by simp)) (ih h)

theorem Leads.visit?_eq {links : Nat} {here : Location} {steps : List String} {place : Place}
    (h : tree.Leads links here steps place) : tree.visit? false links here steps = .ok place := by
  induction h with
  | direct h => rw [visit?, h.walk_eq]
  | through h _ ih => rw [visit?, h.walk_eq]; exact ih

/-! ## Ways that end in a name -/

theorem Leads.name {links : Nat} {here : Location} {name : String} {place : Place}
    (h : tree.Leads links here [name] place) (hstay : ¬ (name = "." ∨ name = Path.directoryStep))
    (hup : name ≠ "..") :
    tree.isDirectory here = true ∧ IsName name ∧
      (tree.lookup? (here ++ [name]) = none ∧ place = .vacant (here ++ [name]) ∨
        (∃ target, tree.lookup? (here ++ [name]) = some (.link target)) ∨
        ∃ entry, tree.lookup? (here ++ [name]) = some entry ∧ place = .occupied (here ++ [name])) := by
  cases h with
  | direct h =>
    cases h with
    | stay _ hstay' _ => exact absurd hstay' hstay
    | up _ _ => exact absurd rfl hup
    | vacant hdir hname hnone => exact ⟨hdir, hname, .inl ⟨hnone, rfl⟩⟩
    | enter hdir hname hentry _ h =>
      cases h
      exact ⟨hdir, hname, .inr (.inr ⟨_, hentry, rfl⟩)⟩
  | through h _ =>
    cases h with
    | stay _ hstay' _ => exact absurd hstay' hstay
    | up _ _ => exact absurd rfl hup
    | link hdir hname hentry => exact ⟨hdir, hname, .inr (.inl ⟨_, hentry⟩)⟩
    | enter _ _ _ _ h => cases h

theorem Way.of_concat {here : Location} {steps : List String} {name : String} {w : Walk}
    (h : tree.Way here (steps ++ [name]) w) :
    (∃ directory, tree.Way here steps (.arrived (.occupied directory)) ∧
        tree.Way directory [name] w) ∨
      ∃ directory target rest, tree.Way here steps (.atLink directory target rest) ∧
        w = .atLink directory target (rest ++ [name]) := by
  induction steps generalizing here with
  | nil => exact .inl ⟨here, .arrived, h⟩
  | cons step steps ih =>
    rw [List.cons_append] at h
    generalize hrest : steps ++ [name] = rest at h
    cases h with
    | stay hdir hstay h =>
      subst hrest
      obtain ⟨directory, hway, hname⟩ | ⟨directory, target, rest, hway, rfl⟩ := ih h
      · exact .inl ⟨directory, .stay hdir hstay hway, hname⟩
      · exact .inr ⟨directory, target, rest, .stay hdir hstay hway, rfl⟩
    | up hdir h =>
      subst hrest
      obtain ⟨directory, hway, hname⟩ | ⟨directory, target, rest, hway, rfl⟩ := ih h
      · exact .inl ⟨directory, .up hdir hway, hname⟩
      · exact .inr ⟨directory, target, rest, .up hdir hway, rfl⟩
    | vacant => simp at hrest
    | link hdir hstep hentry =>
      subst hrest
      exact .inr ⟨here, _, steps, .link hdir hstep hentry, rfl⟩
    | enter hdir hstep hentry hlink h =>
      subst hrest
      obtain ⟨directory, hway, hname⟩ | ⟨directory, target, rest, hway, rfl⟩ := ih h
      · exact .inl ⟨directory, .enter hdir hstep hentry hlink hway, hname⟩
      · exact .inr ⟨directory, target, rest, .enter hdir hstep hentry hlink hway, rfl⟩

/-- **A way through links to a name** goes through the directory that the name stands in. -/
theorem Leads.of_concat {links : Nat} {here : Location} {steps : List String} {name : String}
    {place : Place} (h : tree.Leads links here (steps ++ [name]) place) :
    ∃ left directory, tree.Leads links here steps (.occupied directory) ∧
      tree.Leads left directory [name] place := by
  generalize hall : steps ++ [name] = all at h
  induction h generalizing steps with
  | @direct links here _ place h =>
    subst hall
    obtain ⟨directory, hway, hname⟩ | ⟨_, _, _, _, hw⟩ := h.of_concat
    · exact ⟨links, directory, .direct hway, .direct hname⟩
    · cases hw
  | @through links here _ _ rest target place h hrest ih =>
    subst hall
    obtain ⟨directory, hway, hname⟩ | ⟨directory, target, before, hway, hw⟩ := h.of_concat
    · exact ⟨links + 1, directory, .direct hway, .through hname hrest⟩
    · -- the steps in front of the name go on behind the link
      cases hw
      obtain ⟨left, last, hbefore, hname⟩ := ih (List.append_assoc _ _ _)
      exact ⟨left, last, .through hway hbefore, hname⟩

theorem Way.free {here location : Location} {steps : List String}
    (h : tree.Way here steps (.arrived (.vacant location))) :
    tree.lookup? location = none ∧ location ≠ [] := by
  generalize hw : Walk.arrived (.vacant location) = w at h
  induction h with
  | arrived => cases hw
  | stay _ _ _ ih => exact ih hw
  | up _ _ ih => exact ih hw
  | vacant _ _ hnone =>
    cases hw
    exact ⟨hnone, by simp⟩
  | link => cases hw
  | enter _ _ _ _ _ ih => exact ih hw

theorem Leads.free {links : Nat} {here location : Location} {steps : List String}
    (h : tree.Leads links here steps (.vacant location)) :
    tree.lookup? location = none ∧ location ≠ [] := by
  generalize hplace : Place.vacant location = place at h
  induction h with
  | direct h =>
    subst hplace
    exact h.free
  | through _ _ ih => exact ih hplace

/-! ## Paths -/

theorem placeOf?_eq_ok_iff {location : Location} {place : Place} :
    tree.placeOf? location = .ok place ↔ tree.Leads maxLinks [] location place :=
  ⟨leads_of_visit?, Leads.visit?_eq⟩

theorem resolve?_eq_ok_iff {path : String} {location : Location} :
    tree.resolve? path = .ok location ↔ checkPath path = .ok () ∧
      tree.Leads maxLinks (start tree.workingDirectory path) (Path.steps path)
        (.occupied location) := by
  rw [resolve?, place?]
  cases hcheck : checkPath path with
  | error fault => simp [bind, Except.bind]
  | ok =>
    simp only [bind, Except.bind, true_and]
    constructor
    · intro h
      split at h
      · rename_i found hvisit
        obtain rfl := Except.ok.inj h
        exact leads_of_visit? hvisit
      · cases h
      · cases h
    · intro h
      rw [h.visit?_eq]

theorem fromUTF8?_eq_some_iff {bytes : ByteArray} {text : String} :
    String.fromUTF8? bytes = some text ↔ bytes = text.toUTF8 := by
  rw [String.fromUTF8?]
  constructor
  · intro h
    split at h
    · cases h
      rfl
    · cases h
  · rintro rfl
    exact dif_pos text.isValidUTF8

theorem readText?_eq_ok_iff {path text : String} :
    tree.readText? path = .ok text ↔ ∃ location mode, tree.resolve? path = .ok location ∧
      tree.lookup? location = some (.file text.toUTF8 mode) ∧ isReadable mode = true := by
  constructor
  · intro h
    obtain ⟨bytes, hread, htext⟩ := bind_eq_ok_iff.1 h
    obtain ⟨location, hresolve, hread⟩ := bind_eq_ok_iff.1 hread
    have hbytes : bytes = text.toUTF8 := by
      split at htext
      · rename_i found hfound
        cases htext
        exact fromUTF8?_eq_some_iff.1 hfound
      · cases htext
    split at hread
    · rename_i bytes' mode hentry
      split at hread
      · rename_i hmode
        cases hread
        exact ⟨location, mode, hresolve, by rw [hentry, hbytes], hmode⟩
      · cases hread
    · cases hread
    · cases hread
  · rintro ⟨location, mode, hresolve, hentry, hmode⟩
    have htext : String.fromUTF8? text.toUTF8 = some text := fromUTF8?_eq_some_iff.2 rfl
    simp only [readText?, read?, hresolve, hentry, hmode, if_true, bind, Except.bind, pure,
      Except.pure, htext]

theorem nameIn?_eq_ok_iff {location found : Location} :
    tree.nameIn? location = .ok found ↔ ∃ here directory name, location = here ++ [name] ∧
      tree.Leads maxLinks [] here (.occupied directory) ∧ tree.isDirectory directory = true ∧
      ¬ (name = "." ∨ name = "..") ∧ name.utf8ByteSize ≤ maxNameBytes ∧
      found = directory ++ [name] := by
  rw [nameIn?, nameFrom?]
  constructor
  · intro h
    split at h
    · cases h
    · cases h
    · cases h
    · rename_i directory name hvisit hlast
      obtain ⟨here, rfl⟩ := List.getLast?_eq_some_iff.1 hlast
      rw [List.dropLast_concat] at hvisit
      split at h
      · cases h
      · rename_i hdir
        split at h
        · cases h
        · rename_i hdots
          split at h
          · cases h
          · rename_i hshort
            cases h
            exact ⟨here, directory, name, rfl, leads_of_visit? hvisit, by simpa using hdir, hdots,
              Nat.not_lt.1 hshort, rfl⟩
  · rintro ⟨here, directory, name, rfl, hleads, hdir, hdots, hshort, rfl⟩
    rw [List.dropLast_concat, hleads.visit?_eq, List.getLast?_concat]
    simp [hdir, hdots, Nat.not_lt.2 hshort]

end Accessors.Files.Tree
