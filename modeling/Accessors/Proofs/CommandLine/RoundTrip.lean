import Accessors.CommandLine.Reader
import Accessors.Proofs.Text.Decimal
import Mathlib.Data.List.TakeWhile

/-!
# Arguments in any order

An invocation is written down as one argument for each thing it says (`Invocation.arguments`): the
file by itself, an option with its value behind an equals sign, and a flag by its name. None of
these leaves the reader waiting for more, so each is read by itself: what the reader has after some
of them is the part of the invocation that they say (`Draft.Holds`), and one more adds what it says
(`Draft.Holds.read`). So the order does not matter (`read_of_perm`).
-/

namespace Accessors

open Text

namespace CommandLine

/-! ## Writing an invocation down -/

def Slot.name : Slot → String
  | file => ""
  | line => "line"
  | column => "column"
  | declaration => "interface"
  | config => "config"
  | lead => "prefix"
  | tail => "suffix"
  | indent => "indent"

def Flag.name : Flag → String
  | skipBlank => "skip-blank-lines"
  | dryRun => "dry-run"
  | list => "list"
  | verbose => "verbose"
  | jsonLogs => "json-logs"

/-- A value as an argument. The file has no name in front of it. -/
def Slot.argument (slot : Slot) (text : String) : String :=
  if slot = .file then text else "--" ++ slot.name ++ "=" ++ text

def Flag.argument (flag : Flag) : String :=
  "--" ++ flag.name

def Item.flag? : Item → Option Flag
  | .flag named => some named
  | _ => none

@[simp] theorem filterMap_flag?_slot (slot : Slot) (given : List Item) :
    (Item.slot slot :: given).filterMap Item.flag? = given.filterMap Item.flag? := rfl

/-- The file, and the names under which an invocation says something. -/
def items : List Item :=
  [.slot .file, .slot .line, .slot .column, .slot .declaration, .slot .config, .slot .lead,
    .slot .tail, .slot .indent, .flag .skipBlank, .flag .dryRun, .flag .list, .flag .verbose,
    .flag .jsonLogs]

end CommandLine

namespace Invocation

open CommandLine

/-- The value that an invocation has for a slot, if it gives one. -/
def value? (invocation : Invocation) : Slot → Option String
  | .file => some invocation.file
  | .line => some (toString invocation.line.toNat)
  | .column => some (toString invocation.column.toNat)
  | .declaration => invocation.declaration
  | .config => invocation.config
  | .lead => invocation.lead
  | .tail => invocation.tail
  | .indent => invocation.indent.map toString

def isOn (invocation : Invocation) : Flag → Bool
  | .skipBlank => invocation.skipBlank
  | .dryRun => invocation.dryRun
  | .list => invocation.list
  | .verbose => invocation.verbose
  | .jsonLogs => invocation.jsonLogs

/-- The argument that says what an invocation has to say about an item. -/
def argument? (invocation : Invocation) : Item → Option String
  | .slot slot => (invocation.value? slot).map slot.argument
  | .flag flag => if invocation.isOn flag then some flag.argument else none
  | .help => none

/-- The arguments that say what an invocation says. -/
def arguments (invocation : Invocation) : List String :=
  items.filterMap invocation.argument?

/-- Whether the file and the settings file of an invocation have names, that of the file cannot be
taken for an option, and the indent is a number of 64 bits. -/
structure IsSayable (invocation : Invocation) : Prop where
  file_ne : invocation.file ≠ ""
  file_dash : invocation.file.toList.head? ≠ some '-'
  config_ne : invocation.config ≠ some ""
  indent_lt : ∀ indent, invocation.indent = some indent → indent < UInt64.size

end Invocation

namespace CommandLine

/-! ## Numbers -/

theorem word?_toString (number : UInt32) : word? (toString number.toNat) = some number := by
  have hread := decimal?_toDigits number.toNat
  have hplus := notMem_toDigits (c := '+') rfl number.toNat
  have hminus := notMem_toDigits (c := '-') rfl number.toNat
  have hsize : (number.toNat : Int) < UInt32.size := by
    have := number.toNat_lt_size
    omega
  simp only [word?, toList_toString]
  split
  · rename_i hnumber
    split at hnumber
    · rename_i hdigits
      simp [hdigits] at hplus
    · rename_i hdigits
      simp [hdigits] at hminus
    · rw [hread, Option.map_some] at hnumber
      obtain rfl := Option.some.inj hnumber
      rw [if_pos ⟨Int.natCast_nonneg _, hsize⟩]
      simp
  · rename_i hnumber
    split at hnumber
    · rename_i hdigits
      simp [hdigits] at hplus
    · rename_i hdigits
      simp [hdigits] at hminus
    · simp [hread] at hnumber

theorem count?_toString {number : Nat} (h : number < UInt64.size) :
    count? (toString number) = some number := by
  have hread := decimal?_toDigits number
  have hplus := notMem_toDigits (c := '+') rfl number
  simp only [count?, toList_toString]
  split
  · rename_i hdigits
    simp [hdigits] at hplus
  · rw [hread]
    simp [h]

/-! ## What one argument does -/

theorem longItem?_slot {slot : Slot} (h : slot ≠ .file) :
    longItem? slot.name = some (.slot slot) := by
  cases slot with
  | file => exact absurd rfl h
  | _ => rfl

theorem longItem?_flag (flag : Flag) : longItem? flag.name = some (.flag flag) := by
  cases flag <;> rfl

theorem notMem_slotName (slot : Slot) : '=' ∉ slot.name.toList := by
  cases slot <;> decide

theorem notMem_flagName (flag : Flag) : '=' ∉ flag.name.toList := by
  cases flag <;> decide

namespace Draft

variable {draft : Draft}

theorem read_dashes (hopen : draft.onlyValues = false) {argument : String} {cs : List Char}
    (hargument : argument.toList = '-' :: '-' :: cs) (hne : cs ≠ []) :
    draft.read argument = draft.readLong cs := by
  obtain ⟨c, rest, rfl⟩ := List.exists_cons_of_ne_nil hne
  rw [read, hopen, hargument]
  rfl

theorem read_option (hopen : draft.onlyValues = false) {slot : Slot} (hslot : slot ≠ .file)
    (text : String) : draft.read (slot.argument text) = draft.give slot text := by
  have hargument : (slot.argument text).toList =
      '-' :: '-' :: (slot.name.toList ++ '=' :: text.toList) := by
    simp [Slot.argument, hslot]
  have hplain : ∀ c ∈ slot.name.toList, decide (c ≠ '=') = true := by
    intro c hc
    exact decide_eq_true fun h => notMem_slotName slot (h ▸ hc)
  rw [read_dashes hopen hargument (by simp), readLong, List.takeWhile_append_of_pos hplain,
    List.dropWhile_append_of_pos hplain]
  simp [longItem?_slot hslot]

theorem read_flag (hopen : draft.onlyValues = false) (flag : Flag) :
    draft.read flag.argument = draft.switch flag := by
  have hargument : flag.argument.toList = '-' :: '-' :: flag.name.toList := by
    simp [Flag.argument]
  have hplain : ∀ c ∈ flag.name.toList, decide (c ≠ '=') = true := by
    intro c hc
    exact decide_eq_true fun h => notMem_flagName flag (h ▸ hc)
  have hne : flag.name.toList ≠ [] := by
    cases flag <;> decide
  have htake : flag.name.toList.takeWhile (· ≠ '=') = flag.name.toList :=
    List.takeWhile_eq_self_iff.2 hplain
  have hdrop : flag.name.toList.dropWhile (· ≠ '=') = [] := List.dropWhile_eq_nil_iff.2 hplain
  rw [read_dashes hopen hargument hne, readLong, htake, hdrop]
  simp [longItem?_flag]

theorem read_value (hopen : draft.onlyValues = false) {text : String}
    (hdash : text.toList.head? ≠ some '-') : draft.read text = draft.readValue text := by
  rw [read, hopen]
  simp only [Bool.false_eq_true, if_false]
  split
  · rename_i htext
    simp [htext] at hdash
  · rename_i htext
    simp [htext] at hdash
  · rename_i htext
    simp [htext] at hdash
  · rfl

/-! ## What there is after some arguments -/

/-- What has been read once an invocation has said what it says about some items. -/
def ofItems (invocation : Invocation) (given : List Item) : Draft where
  file := if .slot .file ∈ given then some invocation.file else none
  line := if .slot .line ∈ given then some invocation.line else none
  column := if .slot .column ∈ given then some invocation.column else none
  declaration := if .slot .declaration ∈ given then invocation.declaration else none
  config := if .slot .config ∈ given then invocation.config else none
  lead := if .slot .lead ∈ given then invocation.lead else none
  tail := if .slot .tail ∈ given then invocation.tail else none
  indent := if .slot .indent ∈ given then invocation.indent else none
  flags := given.filterMap Item.flag?

/-- Whether a draft is what there is after what an invocation says about some items. The file may be
left to settle, but nothing waits for a value. -/
structure Holds (draft : Draft) (invocation : Invocation) (given : List Item) : Prop where
  settle_eq : draft.settle = .ok (ofItems invocation given)
  hasFile_iff : draft.hasFile = true ↔ .slot .file ∈ given
  pending_ne : ∀ slot, draft.pending ≠ some (slot, none)
  onlyValues : draft.onlyValues = false
  said : ∀ item ∈ given, invocation.argument? item ≠ none

variable {invocation : Invocation} {given : List Item}

theorem contains_ofItems_flags (flag : Flag) :
    (ofItems invocation given).flags.contains flag = decide (.flag flag ∈ given) := by
  have hmem : flag ∈ given.filterMap Item.flag? ↔ Item.flag flag ∈ given := by
    rw [List.mem_filterMap]
    constructor
    · rintro ⟨item, hitem, hflag⟩
      cases item with
      | flag other =>
        obtain rfl := Option.some.inj hflag
        exact hitem
      | _ => cases hflag
    · intro hitem
      exact ⟨.flag flag, hitem, rfl⟩
  rw [List.contains_eq_mem]
  exact decide_eq_decide.2 hmem

theorem isGiven_ofItems {slot : Slot} (h : .slot slot ∉ given) :
    (ofItems invocation given).isGiven slot = false := by
  cases slot <;> simp [isGiven, ofItems, h]

theorem store_ofItems (hsayable : invocation.IsSayable) {slot : Slot} {text : String}
    (hvalue : invocation.value? slot = some text) (hnew : .slot slot ∉ given) :
    (ofItems invocation given).store slot text =
      .ok (ofItems invocation (.slot slot :: given)) := by
  have hfree : (ofItems invocation given).isGiven slot = false := isGiven_ofItems hnew
  cases slot with
  | file =>
    obtain rfl := Option.some.inj hvalue
    have hpath : path? invocation.file = some invocation.file := by
      simp [path?, hsayable.file_ne]
    rw [store, hfree]
    simp [hpath, ofItems, orFault]
  | line =>
    obtain rfl := Option.some.inj hvalue
    rw [store, hfree]
    simp only [Bool.false_eq_true, if_false, word?_toString]
    simp [ofItems, orFault]
  | column =>
    obtain rfl := Option.some.inj hvalue
    rw [store, hfree]
    simp only [Bool.false_eq_true, if_false, word?_toString]
    simp [ofItems, orFault]
  | declaration =>
    have hsaying : invocation.declaration = some text := hvalue
    rw [store, hfree]
    simp [hsaying, ofItems]
  | config =>
    have hsaying : invocation.config = some text := hvalue
    have hpath : path? text = some text := by
      have hne := hsayable.config_ne
      rw [hsaying] at hne
      simpa [path?] using hne
    rw [store, hfree]
    simp [hsaying, hpath, ofItems, orFault]
  | lead =>
    have hsaying : invocation.lead = some text := hvalue
    rw [store, hfree]
    simp [hsaying, ofItems]
  | tail =>
    have hsaying : invocation.tail = some text := hvalue
    rw [store, hfree]
    simp [hsaying, ofItems]
  | indent =>
    obtain ⟨indent, hsaying, rfl⟩ := Option.map_eq_some_iff.1 hvalue
    rw [store, hfree]
    simp only [Bool.false_eq_true, if_false, count?_toString (hsayable.indent_lt indent hsaying)]
    simp [hsaying, ofItems, orFault]

/-! ## Reading -/

theorem holds_start (invocation : Invocation) : Holds {} invocation [] where
  settle_eq := rfl
  hasFile_iff := by simp [hasFile]
  pending_ne := by simp
  onlyValues := rfl
  said := by simp

theorem holds_ofItems (hsaid : ∀ item ∈ given, invocation.argument? item ≠ none) :
    (ofItems invocation given).Holds invocation given where
  settle_eq := rfl
  hasFile_iff := by simp [hasFile, ofItems]
  pending_ne := by simp [ofItems]
  onlyValues := rfl
  said := hsaid

theorem Holds.read_slot (h : draft.Holds invocation given) (hsayable : invocation.IsSayable)
    {slot : Slot} {text : String} (hvalue : invocation.value? slot = some text)
    (hnew : .slot slot ∉ given) :
    ∃ after, draft.read (slot.argument text) = .ok after ∧
      after.Holds invocation (.slot slot :: given) := by
  have hsaid : ∀ item ∈ Item.slot slot :: given, invocation.argument? item ≠ none := by
    simpa [Invocation.argument?, hvalue] using h.said
  have hstore := store_ofItems hsayable hvalue hnew
  by_cases hfile : slot = .file
  · -- the file is left to settle until the next argument
    subst hfile
    obtain rfl := Option.some.inj hvalue
    refine ⟨{ ofItems invocation given with pending := some (.file, some invocation.file) }, ?_, ?_⟩
    · have hfree : draft.hasFile = false := by
        simpa using mt h.hasFile_iff.1 hnew
      have hread : draft.readValue invocation.file = draft.readFile invocation.file := by
        rw [readValue]
        split
        · rename_i slot hpending
          exact absurd hpending (h.pending_ne slot)
        · rfl
      rw [Slot.argument, if_pos rfl, read_value h.onlyValues hsayable.file_dash, hread, readFile,
        hfree, h.settle_eq]
      rfl
    · exact {
        settle_eq := hstore
        hasFile_iff := by simp [hasFile]
        pending_ne := by simp
        onlyValues := rfl
        said := hsaid }
  · refine ⟨_, ?_, holds_ofItems hsaid⟩
    rw [read_option h.onlyValues hfile, give, h.settle_eq]
    exact hstore

theorem Holds.read_flag (h : draft.Holds invocation given) {flag : Flag}
    (hon : invocation.isOn flag = true) (hnew : .flag flag ∉ given) :
    ∃ after, draft.read flag.argument = .ok after ∧
      after.Holds invocation (.flag flag :: given) := by
  have hsaid : ∀ item ∈ Item.flag flag :: given, invocation.argument? item ≠ none := by
    simpa [Invocation.argument?, hon] using h.said
  have hoff : (ofItems invocation given).flags.contains flag = false := by
    rw [contains_ofItems_flags]
    exact decide_eq_false hnew
  have hnext : ofItems invocation (.flag flag :: given) =
      { ofItems invocation given with flags := flag :: (ofItems invocation given).flags } := by
    simp [ofItems, Item.flag?]
  refine ⟨_, ?_, holds_ofItems hsaid⟩
  rw [Draft.read_flag h.onlyValues, switch, h.settle_eq, hnext]
  simp only [bind, Except.bind, hoff]
  rfl

theorem Holds.read (h : draft.Holds invocation given) (hsayable : invocation.IsSayable)
    {item : Item} {argument : String} (hsaying : invocation.argument? item = some argument)
    (hnew : item ∉ given) :
    ∃ after, draft.read argument = .ok after ∧ after.Holds invocation (item :: given) := by
  cases item with
  | slot slot =>
    obtain ⟨text, hvalue, rfl⟩ := Option.map_eq_some_iff.1 hsaying
    exact h.read_slot hsayable hvalue hnew
  | flag flag =>
    rw [Invocation.argument?] at hsaying
    split at hsaying
    · rename_i hon
      obtain rfl := Option.some.inj hsaying
      exact h.read_flag hon hnew
    · cases hsaying
  | help => cases hsaying

theorem Holds.read_all (hsayable : invocation.IsSayable) {arguments : List String} :
    ∀ {further : List Item} {given : List Item} {draft : Draft}, draft.Holds invocation given →
      further.Nodup → (∀ item ∈ further, item ∉ given) →
      arguments.Perm (further.filterMap invocation.argument?) →
      ∃ after all, arguments.foldlM Draft.read draft = .ok after ∧ after.Holds invocation all ∧
        given ⊆ all ∧ ∀ item ∈ further, invocation.argument? item ≠ none → item ∈ all := by
  induction arguments with
  | nil =>
    intro further given draft h _ _ hperm
    refine ⟨draft, given, rfl, h, List.Subset.refl _, fun item hitem hsaid => ?_⟩
    have hnone : further.filterMap invocation.argument? = [] := hperm.nil_eq.symm
    exact absurd (List.filterMap_eq_nil_iff.1 hnone item hitem) hsaid
  | cons argument arguments ih =>
    intro further given draft h hnodup hnew hperm
    obtain ⟨item, hitem, hsaying⟩ := List.mem_filterMap.1 (hperm.subset List.mem_cons_self)
    obtain ⟨next, hread, hnext⟩ := h.read hsayable hsaying (hnew item hitem)
    -- the other arguments say what is left
    have hleft : arguments.Perm ((further.erase item).filterMap invocation.argument?) := by
      have hcut := (List.perm_cons_erase hitem).filterMap invocation.argument?
      rw [List.filterMap_cons_some hsaying] at hcut
      exact (hperm.trans hcut).cons_inv
    have hfresh : ∀ other ∈ further.erase item, other ∉ item :: given := by
      intro other hother
      obtain ⟨hne, hmem⟩ := hnodup.mem_erase_iff.1 hother
      simp [hne, hnew other hmem]
    obtain ⟨after, all, hrest, hafter, hsub, hall⟩ := ih hnext (hnodup.erase item) hfresh hleft
    refine ⟨after, all, ?_, hafter, fun other hother => hsub (List.mem_cons_of_mem _ hother), ?_⟩
    · rw [List.foldlM_cons, hread]
      exact hrest
    · intro other hother hsaid
      by_cases heq : other = item
      · exact hsub (heq ▸ List.mem_cons_self)
      · exact hall other (hnodup.mem_erase_iff.2 ⟨heq, hother⟩) hsaid

theorem Holds.finish_eq (h : draft.Holds invocation given)
    (hall : ∀ item, invocation.argument? item ≠ none → item ∈ given) :
    draft.finish = .ok invocation := by
  have hvalue : ∀ slot, invocation.value? slot ≠ none → .slot slot ∈ given := by
    intro slot hslot
    exact hall _ (by simpa [Invocation.argument?] using hslot)
  have hflag : ∀ flag, (ofItems invocation given).flags.contains flag = invocation.isOn flag := by
    intro flag
    rw [contains_ofItems_flags]
    cases hon : invocation.isOn flag with
    | true => exact decide_eq_true (hall _ (by simp [Invocation.argument?, hon]))
    | false =>
      refine decide_eq_false fun hmem => ?_
      exact h.said _ hmem (by simp [Invocation.argument?, hon])
  have hfield {α : Type} {slot : Slot} {field : Option α}
      (hsame : field ≠ none → invocation.value? slot ≠ none) :
      (if .slot slot ∈ given then field else none) = field := by
    split
    · rfl
    · rename_i hmissing
      by_contra hne
      exact hmissing (hvalue slot (hsame fun h => hne h.symm))
  have hfile : (ofItems invocation given).file = some invocation.file :=
    if_pos (hvalue .file (by simp [Invocation.value?]))
  have hline : (ofItems invocation given).line = some invocation.line :=
    if_pos (hvalue .line (by simp [Invocation.value?]))
  have hcolumn : (ofItems invocation given).column = some invocation.column :=
    if_pos (hvalue .column (by simp [Invocation.value?]))
  have hdeclaration : (ofItems invocation given).declaration = invocation.declaration := hfield id
  have hconfig : (ofItems invocation given).config = invocation.config := hfield id
  have hlead : (ofItems invocation given).lead = invocation.lead := hfield id
  have htail : (ofItems invocation given).tail = invocation.tail := hfield id
  have hindent : (ofItems invocation given).indent = invocation.indent :=
    hfield (by simp [Invocation.value?])
  rw [finish, h.settle_eq]
  simp only [bind, Except.bind, hfile, hline, hcolumn, hdeclaration, hconfig, hlead, htail, hindent,
    hflag]
  rfl

end Draft

/-! ## The whole command line -/

theorem nodup_items : items.Nodup := by
  decide

theorem mem_items {item : Item} (h : item ≠ .help) : item ∈ items := by
  cases item with
  | slot slot => cases slot <;> decide
  | flag flag => cases flag <;> decide
  | help => exact absurd rfl h

/-- **Arguments in any order**: what an invocation says, one argument for each thing, is read back
as the invocation in whatever order the arguments come. -/
theorem read_of_perm {invocation : Invocation} (hsayable : invocation.IsSayable)
    {arguments : List String} (hperm : arguments.Perm invocation.arguments) :
    CommandLine.read arguments = .ok invocation := by
  obtain ⟨draft, given, hread, hholds, -, hall⟩ :=
    Draft.Holds.read_all hsayable (Draft.holds_start invocation) nodup_items (by simp) hperm
  have hsaid : ∀ item, invocation.argument? item ≠ none → item ∈ given := by
    intro item hsaying
    refine hall item (mem_items fun hhelp => ?_) hsaying
    subst hhelp
    exact hsaying rfl
  rw [CommandLine.read, hread]
  exact hholds.finish_eq hsaid

/-- An invocation with values that look like options, are empty or have an equals sign in them. -/
def trickyInvocation : Invocation where
  file := "=src/=main.ts"
  line := 7
  column := 4294967295
  declaration := some ""
  config := some "--list"
  lead := some "--suffix=a=b"
  tail := none
  indent := some 18446744073709551615
  skipBlank := false
  dryRun := true
  list := false
  verbose := true
  jsonLogs := false

theorem read_of_perm_trickyInvocation :
    trickyInvocation.IsSayable ∧
      ["--verbose", "--prefix=--suffix=a=b", "--indent=18446744073709551615", "=src/=main.ts",
        "--config=--list", "--interface=", "--column=4294967295", "--dry-run", "--line=7"].Perm
          trickyInvocation.arguments ∧
      CommandLine.read
        ["--verbose", "--prefix=--suffix=a=b", "--indent=18446744073709551615", "=src/=main.ts",
          "--config=--list", "--interface=", "--column=4294967295", "--dry-run", "--line=7"] =
        .ok trickyInvocation := by
  have hsayable : trickyInvocation.IsSayable :=
    ⟨by decide, by decide, by decide, by rintro indent ⟨⟩; decide⟩
  have hperm : ["--verbose", "--prefix=--suffix=a=b", "--indent=18446744073709551615",
      "=src/=main.ts", "--config=--list", "--interface=", "--column=4294967295", "--dry-run",
      "--line=7"].Perm trickyInvocation.arguments := by
    decide
  exact ⟨hsayable, hperm, read_of_perm hsayable hperm⟩

end CommandLine

end Accessors
