import Accessors.Proofs.Settings.Resolution
import Accessors.Proofs.Toml.Outline
import Mathlib.Algebra.Group.Int.Defs
import Mathlib.Algebra.Group.Nat.Defs

/-!
# Settings files that leave things out

A settings file may give any of the settings (`Partial`), in sections and under keys in any order
and among names that are not known (`Arranges`), and may be written with blank lines, comments and
spaces as the grammar lets them stand (`Toml.Written`). However it is written, what it gives is
taken and what it leaves out keeps its default (`ofToml_of_written`), as long as every integer in it
is one that is held: a wider one, even under a name that is not known, makes it no settings file
(`ofToml_wideText`).
-/

namespace Accessors.Settings

open Check Text Toml

/-- What a settings file gives of what can be set. -/
structure Partial where
  lead : Option String := none
  tail : Option String := none
  skipBlank : Option Bool := none
  indent : Option Nat := none

/-- The names that are known, each with that of its section. -/
def keys : List (String × String) :=
  [("declaration", "prefix"), ("declaration", "suffix"), ("extract", "skip_blank_lines"),
    ("render", "indent")]

namespace Partial

/-- The value that is given under a name in a section. -/
def value? (given : Partial) : String × String → Option Value
  | ("declaration", "prefix") => given.lead.map .text
  | ("declaration", "suffix") => given.tail.map .text
  | ("extract", "skip_blank_lines") => given.skipBlank.map .boolean
  | ("render", "indent") => given.indent.map fun number : Nat => .integer number
  | _ => none

/-- The settings with what is given, and the defaults for the rest. -/
def complete (given : Partial) : Settings where
  naming := { lead := given.lead.getD "I", tail := given.tail.getD "Data" }
  skipBlank := given.skipBlank.getD false
  indent := given.indent.getD 2

/-- Whether affixes have only letters, numbers and underscores, and the indent has 63 bits. -/
structure IsProper (given : Partial) : Prop where
  lead : ∀ text, given.lead = some text → IsAffix text
  tail : ∀ text, given.tail = some text → IsAffix text
  indent : ∀ number, given.indent = some number → number < 2 ^ 63

end Partial

/-- Whether a pair is a name without quotes and an integer. -/
def IsExtra (pair : String × Value) : Prop :=
  IsBareName pair.1 ∧ ∃ number, pair.2 = .integer number

/-- Whether an outline gives what is given, each value under its name in its section. It may have
further pairs under names that are not known. -/
structure Arranges (outline : Outline) (given : Partial) : Prop where
  distinct : outline.IsDistinct
  sections : ∀ part ∈ outline.parts, part.1 ∈ sectionNames
  top : ∀ pair ∈ outline.top, pair.1 ∉ sectionNames ∧ IsExtra pair
  pairs : ∀ part ∈ outline.parts, ∀ pair ∈ part.2,
    given.value? (part.1, pair.1) = some pair.2 ∨ ((part.1, pair.1) ∉ keys ∧ IsExtra pair)
  all : ∀ key value, given.value? key = some value →
    ∃ pairs, (key.1, pairs) ∈ outline.parts ∧ (key.2, value) ∈ pairs

/-- Whether every integer in an outline has 128 bits, with a sign or without. -/
def IsHeld (outline : Outline) : Prop :=
  ∀ pair ∈ outline.pairs, ∀ number, pair.2 = .integer number →
    -2 ^ 127 ≤ number ∧ number < 2 ^ 128

/-! ## What can be written -/

theorem le_of_has {ranges : Unicode.Ranges} {least : Nat} {c : Char}
    (hleast : ∀ range ∈ ranges, least ≤ range.1) (h : ranges.has c = true) : least ≤ c.toNat := by
  obtain ⟨range, hrange, hc⟩ := List.any_eq_true.1 h
  have hlow : range.1 ≤ c.toNat := by
    simp only [Bool.and_eq_true, decide_eq_true_eq] at hc
    exact hc.1
  exact (hleast range hrange).trans hlow

theorem le_of_isAlphanumeric {c : Char} (h : Unicode.isAlphanumeric c = true) :
    '0'.toNat ≤ c.toNat := by
  have hletters : ∀ range ∈ Unicode.alphabetic ++ Unicode.recentAlphabetic,
      '0'.toNat ≤ range.1 := by
    decide +kernel
  have hnumbers : ∀ range ∈ Unicode.decimalDigit ++ Unicode.recentDigit ++
      Unicode.letterNumber ++ Unicode.otherNumber, '0'.toNat ≤ range.1 := by
    decide +kernel
  rw [Unicode.isAlphanumeric, Unicode.isAlphabetic, Unicode.isNumeric, ← Unicode.Ranges.has_append,
    ← Unicode.Ranges.has_append, ← Unicode.Ranges.has_append, ← Unicode.Ranges.has_append,
    Bool.or_eq_true] at h
  rcases h with h | h
  · exact le_of_has hletters h
  · exact le_of_has hnumbers h

theorem isPlain_of_isAffixLetter {c : Char} (h : IsAffixLetter c) :
    Quoted.isPlain c = true ∧ c ≠ '"' ∧ c ≠ '\\' := by
  have hlow : 48 ≤ c.toNat := by
    rcases h with h | rfl
    · exact le_of_isAlphanumeric h
    · decide
  have hdelete : c.toNat ≠ 0x7F := by
    intro hc
    have hletter : ¬ IsAffixLetter (Char.ofNat 0x7F) := by decide +kernel
    rw [← hc, Char.ofNat_toNat] at hletter
    exact hletter h
  have hslash : c ≠ '\\' := by
    rintro rfl
    revert h
    decide +kernel
  refine ⟨?_, ?_, hslash⟩
  · simp only [Quoted.isPlain, Bool.or_eq_true, Bool.and_eq_true, decide_eq_true_eq]
    exact .inr ⟨by omega, hdelete⟩
  · rintro rfl
    exact absurd hlow (by decide)

theorem spells_of_isAffix {text : String} (h : IsAffix text) :
    Spells ('"' :: (text.toList ++ ['"'])) (.text text) := by
  have hspells := Spells.quoted fun c hc => isPlain_of_isAffixLetter (h c hc)
  rwa [String.ofList_toList] at hspells

theorem isBareName_of_mem_keys {key : String × String} (h : key ∈ keys) :
    IsBareName key.1 ∧ IsBareName key.2 := by
  have hkeys : ∀ key ∈ keys, IsBareName key.1 ∧ IsBareName key.2 := by
    decide +kernel
  exact hkeys key h

namespace Partial

variable {given : Partial} {key : String × String} {value : Value}

theorem value?_cases (h : given.value? key = some value) :
    (key = ("declaration", "prefix") ∧ ∃ text, given.lead = some text ∧ value = .text text) ∨
      (key = ("declaration", "suffix") ∧ ∃ text, given.tail = some text ∧ value = .text text) ∨
      (key = ("extract", "skip_blank_lines") ∧
        ∃ flag, given.skipBlank = some flag ∧ value = .boolean flag) ∨
      (key = ("render", "indent") ∧
        ∃ number : Nat, given.indent = some number ∧ value = .integer number) := by
  unfold value? at h
  split at h
  · obtain ⟨text, hgiven, rfl⟩ := Option.map_eq_some_iff.1 h
    exact .inl ⟨rfl, text, hgiven, rfl⟩
  · obtain ⟨text, hgiven, rfl⟩ := Option.map_eq_some_iff.1 h
    exact .inr (.inl ⟨rfl, text, hgiven, rfl⟩)
  · obtain ⟨flag, hgiven, rfl⟩ := Option.map_eq_some_iff.1 h
    exact .inr (.inr (.inl ⟨rfl, flag, hgiven, rfl⟩))
  · obtain ⟨number, hgiven, rfl⟩ := Option.map_eq_some_iff.1 h
    exact .inr (.inr (.inr ⟨rfl, number, hgiven, rfl⟩))
  · cases h

theorem mem_keys_of_value? (h : given.value? key = some value) : key ∈ keys := by
  rcases value?_cases h with ⟨rfl, -⟩ | ⟨rfl, -⟩ | ⟨rfl, -⟩ | ⟨rfl, -⟩ <;> decide

theorem IsProper.exists_spells (hproper : given.IsProper) (h : given.value? key = some value) :
    ∃ cs, Spells cs value := by
  rcases value?_cases h with ⟨-, text, hgiven, rfl⟩ | ⟨-, text, hgiven, rfl⟩ |
    ⟨-, flag, -, rfl⟩ | ⟨-, number, -, rfl⟩
  · exact ⟨_, spells_of_isAffix (hproper.lead text hgiven)⟩
  · exact ⟨_, spells_of_isAffix (hproper.tail text hgiven)⟩
  · cases flag with
    | true => exact ⟨_, .yes⟩
    | false => exact ⟨_, .no⟩
  · obtain ⟨cs, hcs⟩ := exists_numeral number
    exact ⟨cs, .number hcs⟩

end Partial

theorem IsExtra.exists_spells {pair : String × Value} (h : IsExtra pair) :
    ∃ cs, Spells cs pair.2 := by
  obtain ⟨-, number, hnumber⟩ := h
  obtain ⟨cs, hcs⟩ := exists_numeral number
  rw [hnumber]
  exact ⟨cs, .number hcs⟩

/-! ## Values that are held and given -/

theorem isHeldInteger_of_bounds {number : Int} (hlow : -2 ^ 127 ≤ number)
    (hhigh : number < 2 ^ 128) :
    Scalar.isHeldInteger number = true := by
  cases number with
  | ofNat n =>
    have hn : n < Nat.pow 2 128 := by
      rw [Int.ofNat_eq_natCast] at hhigh
      rw [Nat.pow_eq]
      omega
    simpa [Scalar.isHeldInteger] using hn
  | negSucc n =>
    have hn : n < Nat.pow 2 127 := by
      rw [Nat.pow_eq]
      omega
    simpa [Scalar.isHeldInteger] using hn

theorem isHeldEntry_of_spells {cs : List Char} {pair : String × Value} (h : Spells cs pair.2)
    (hnumber : ∀ number, pair.2 = .integer number → -2 ^ 127 ≤ number ∧ number < 2 ^ 128) :
    isHeldEntry pair = true ∧ pair.2.isHeld = true := by
  obtain ⟨name, value⟩ := pair
  cases h with
  | quoted _ => exact ⟨rfl, rfl⟩
  | literal _ => exact ⟨rfl, rfl⟩
  | yes => exact ⟨rfl, rfl⟩
  | no => exact ⟨rfl, rfl⟩
  | @number cs number _ =>
    obtain ⟨hlow, hhigh⟩ := hnumber number rfl
    have hheld := isHeldInteger_of_bounds hlow hhigh
    exact ⟨hheld, hheld⟩

theorem areHeld_iff {entries : Entries} :
    Entries.areHeld entries = true ↔ ∀ pair ∈ entries, pair.2.isHeld = true := by
  induction entries with
  | nil => simp [Entries.areHeld]
  | cons pair entries ih => simp [Entries.areHeld, ih]

theorem gives_map {α : Type} {default : α} {convert? : Value → Option α} {wrap : α → Value}
    {field : Option α} (h : ∀ a, field = some a → convert? (wrap a) = some a) :
    Gives default convert? (field.map wrap) (field.getD default) := by
  cases field with
  | none => rfl
  | some a => exact h a rfl

namespace Arranges

variable {outline : Outline} {given : Partial}

theorem exists_spells (h : Arranges outline given) (hproper : given.IsProper) :
    ∀ pair ∈ outline.pairs, IsBareName pair.1 ∧ ∃ cs, Spells cs pair.2 := by
  intro pair hpair
  rcases List.mem_append.1 hpair with htop | hparts
  · obtain ⟨-, hextra⟩ := h.top pair htop
    exact ⟨hextra.1, hextra.exists_spells⟩
  · obtain ⟨part, hpart, hmem⟩ := List.mem_flatMap.1 hparts
    rcases h.pairs part hpart pair hmem with hgiven | ⟨-, hextra⟩
    · have hname := isBareName_of_mem_keys (Partial.mem_keys_of_value? hgiven)
      exact ⟨hname.2, hproper.exists_spells hgiven⟩
    · exact ⟨hextra.1, hextra.exists_spells⟩

/-- **Whatever is given can be written**, in any arrangement. -/
theorem exists_written (h : Arranges outline given) (hproper : given.IsProper) :
    ∃ text : String, Written text.toList outline.statements := by
  have hpair : ∀ pair ∈ outline.pairs, ∃ cs, Puts cs (.ofPair pair) := by
    intro pair hpair
    obtain ⟨hname, cs, hcs⟩ := h.exists_spells hproper pair hpair
    exact ⟨_, .assign hname isGap_nil isGap_nil hcs⟩
  have hputs : ∀ statement ∈ outline.statements, ∃ cs, Puts cs statement := by
    intro statement hstatement
    rcases List.mem_append.1 hstatement with htop | hparts
    · obtain ⟨pair, hmem, rfl⟩ := List.mem_map.1 htop
      exact hpair pair (List.mem_append_left _ hmem)
    · obtain ⟨part, hpart, hline⟩ := List.mem_flatMap.1 hparts
      rcases List.mem_cons.1 hline with rfl | hinner
      · have hbare : ∀ name ∈ sectionNames, IsBareName name := by decide +kernel
        exact ⟨_, .header (hbare part.1 (h.sections part hpart)) isGap_nil isGap_nil⟩
      · obtain ⟨pair, hmem, rfl⟩ := List.mem_map.1 hinner
        exact hpair pair (List.mem_append_right _ (List.mem_flatMap.2 ⟨part, hpart, hmem⟩))
  obtain ⟨cs, hcs⟩ := Toml.exists_written hputs
  exact ⟨String.ofList cs, by rwa [String.toList_ofList]⟩

/-! ## What is read -/

theorem exists_section (h : Arranges outline given) (name : String) (hname : name ∈ sectionNames) :
    ∃ values, sectionOf outline.entries name = .ok values ∧
      ∀ place key, (name, key) ∈ keys → values place key = given.value? (name, key) := by
  by_cases hpart : ∃ pairs, (name, pairs) ∈ outline.parts
  · obtain ⟨pairs, hpart⟩ := hpart
    have hmem {pairs : Entries} (hpart : (name, pairs) ∈ outline.parts) :
        outline.entries.lookup name = some (.table .header pairs) := by
      refine Entries.lookup_of_mem h.distinct.names (List.mem_append_right _ ?_)
      exact List.mem_map.2 ⟨(name, pairs), hpart, rfl⟩
    refine ⟨fun _ key => pairs.lookup key, by rw [sectionOf, hmem hpart]; rfl, ?_⟩
    intro place key hkey
    cases hgiven : given.value? (name, key) with
    | none =>
      refine Entries.lookup_of_notMem fun hmem => ?_
      obtain ⟨pair, hpair, rfl⟩ := List.mem_map.1 hmem
      rcases h.pairs _ hpart pair hpair with hvalue | ⟨hnegative, -⟩
      · rw [hgiven] at hvalue
        cases hvalue
      · exact hnegative hkey
    | some value =>
      obtain ⟨others, hnegatives, hpair⟩ := h.all _ _ hgiven
      cases (hmem hpart).symm.trans (hmem hnegatives)
      exact Entries.lookup_of_mem (h.distinct.partNames _ hpart) hpair
  · have hnone : outline.entries.lookup name = none := by
      refine Entries.lookup_of_notMem fun hmem => ?_
      obtain ⟨entry, hentry, rfl⟩ := List.mem_map.1 hmem
      rcases List.mem_append.1 hentry with htop | hparts
      · exact (h.top entry htop).1 hname
      · obtain ⟨part, hsame, rfl⟩ := List.mem_map.1 hparts
        exact hpart ⟨part.2, hsame⟩
    refine ⟨fun _ _ => none, by rw [sectionOf, hnone], fun place key hkey => ?_⟩
    cases hgiven : given.value? (name, key) with
    | none => rfl
    | some value =>
      obtain ⟨pairs, hpairs, -⟩ := h.all _ _ hgiven
      exact absurd ⟨pairs, hpairs⟩ hpart

theorem holds (h : Arranges outline given) (hproper : given.IsProper) :
    Holds outline.entries given.complete := by
  have hcount : ∀ number, given.indent = some number →
      count? (.integer number) = some number := by
    intro number hgiven
    have hsmall := hproper.indent number hgiven
    have hsize : number < UInt64.size := by
      rw [UInt64.size]
      omega
    simp [count?, hsize]
  obtain ⟨declaration, hdeclaration, haffixes⟩ := h.exists_section "declaration" (by decide)
  obtain ⟨extract, hextract, hskip⟩ := h.exists_section "extract" (by decide)
  obtain ⟨render, hrender, hindent⟩ := h.exists_section "render" (by decide)
  refine ⟨⟨declaration, hdeclaration, ?_, ?_⟩, ⟨extract, hextract, ?_⟩, ⟨render, hrender, ?_⟩⟩
  · rw [haffixes 0 "prefix" (by decide)]
    exact gives_map fun _ _ => rfl
  · rw [haffixes 1 "suffix" (by decide)]
    exact gives_map fun _ _ => rfl
  · rw [hskip 0 "skip_blank_lines" (by decide)]
    exact gives_map fun _ _ => rfl
  · rw [hindent 0 "indent" (by decide)]
    exact gives_map hcount

theorem all_isHeldEntry (h : Arranges outline given) (hproper : given.IsProper)
    (hheld : IsHeld outline) : outline.entries.all isHeldEntry = true := by
  have hpairs : ∀ pair ∈ outline.pairs, isHeldEntry pair = true ∧ pair.2.isHeld = true := by
    intro pair hpair
    obtain ⟨-, cs, hcs⟩ := h.exists_spells hproper pair hpair
    exact isHeldEntry_of_spells hcs (hheld pair hpair)
  rw [List.all_eq_true]
  intro entry hentry
  rcases List.mem_append.1 hentry with htop | hparts
  · exact (hpairs entry (List.mem_append_left _ htop)).1
  · obtain ⟨part, hpart, rfl⟩ := List.mem_map.1 hparts
    have hpart : Entries.areHeld part.2 = true := by
      rw [areHeld_iff]
      intro pair hpair
      exact (hpairs pair (List.mem_append_right _ (List.mem_flatMap.2 ⟨part, hpart, hpair⟩))).2
    exact hpart

end Arranges

/-- **A settings file may leave out whatever it likes.** However what it gives is arranged and
written, that is taken, and the rest keeps its default. -/
theorem ofToml_of_written {outline : Outline} {given : Partial} (h : Arranges outline given)
    (hproper : given.IsProper) (hheld : IsHeld outline) :
    (∃ text : String, Written text.toList outline.statements) ∧
      ∀ text : String, Written text.toList outline.statements →
        ofToml text = .ok given.complete := by
  refine ⟨h.exists_written hproper, fun text hwritten => ?_⟩
  rw [ofToml_eq_ok_iff]
  exact ⟨outline.entries, parse_of_written h.distinct hwritten, h.all_isHeldEntry hproper hheld,
    h.holds hproper⟩

/-- Two of the settings, in two of the sections, among names that are not known. -/
def mixedOutline : Outline where
  top := [("x-1", .integer 255)]
  parts := [("render", [("indent", .integer 9)]),
    ("declaration", [("y", .integer (-1)), ("suffix", .text "_é7")])]

/-- The same as a text with comments, blank lines and both kinds of line breaks. -/
def mixedText : String :=
  "#own\r\nx-1 = 0xF_f # hex\n [ render ]\nindent=+9\r\n\n[declaration]\ny = -1\nsuffix\t= '_é7'\n#"

/-- What the text gives; the prefix and the blank lines keep their defaults. -/
def mixedGiven : Partial := { tail := some "_é7", indent := some 9 }

theorem arranges_mixedOutline : Arranges mixedOutline mixedGiven where
  distinct := ⟨by decide +kernel, by decide +kernel⟩
  sections := by decide +kernel
  top := by
    intro pair hpair
    obtain rfl := List.mem_singleton.1 hpair
    exact ⟨by decide, by decide +kernel, _, rfl⟩
  pairs := by
    intro part hpart pair hpair
    simp only [mixedOutline, List.mem_cons, List.not_mem_nil, or_false] at hpart
    rcases hpart with rfl | rfl
    · obtain rfl := List.mem_singleton.1 hpair
      exact .inl rfl
    · simp only [List.mem_cons, List.not_mem_nil, or_false] at hpair
      rcases hpair with rfl | rfl
      · exact .inr ⟨by decide, by decide +kernel, _, rfl⟩
      · exact .inl rfl
  all := by
    intro key value hvalue
    rcases Partial.value?_cases hvalue with ⟨-, _, hgiven, -⟩ | ⟨rfl, _, hgiven, rfl⟩ |
      ⟨-, _, hgiven, -⟩ | ⟨rfl, _, hgiven, rfl⟩
    · cases hgiven
    · cases hgiven
      exact ⟨_, List.mem_cons_of_mem _ List.mem_cons_self,
        List.mem_cons_of_mem _ List.mem_cons_self⟩
    · cases hgiven
    · cases hgiven
      exact ⟨_, List.mem_cons_self, List.mem_cons_self⟩

theorem isHeld_mixedOutline : IsHeld mixedOutline := by
  intro pair hpair number hnumber
  simp only [Outline.pairs, mixedOutline, List.flatMap_cons, List.flatMap_nil, List.append_nil,
    List.cons_append, List.nil_append, List.mem_cons, List.not_mem_nil, or_false] at hpair
  rcases hpair with rfl | rfl | rfl | rfl
  · cases hnumber
    decide
  · cases hnumber
    decide
  · cases hnumber
    decide
  · cases hnumber

theorem written_mixedText : Written mixedText.toList mixedOutline.statements := by
  have hspace : IsGap [' '] := by decide
  have hextra : Puts ("x-1".toList ++ [' '] ++ '=' :: ([' '] ++ "0xF_f".toList))
      (.ofPair ("x-1", .integer 255)) :=
    .assign (by decide +kernel) hspace hspace
      (.number (.hexadecimal ⟨[['F'], ['f']], by decide⟩))
  have hrender : Puts ('[' :: ([' '] ++ "render".toList ++ [' '] ++ [']']))
      (.header ⟨[], "render"⟩) :=
    .header (by decide +kernel) hspace hspace
  have hindent : Puts ("indent".toList ++ [] ++ '=' :: ([] ++ ['+', '9']))
      (.ofPair ("indent", .integer 9)) :=
    .assign (by decide +kernel) isGap_nil isGap_nil
      (.number (.plus ⟨⟨[['9']], by decide⟩, by decide⟩))
  have hdeclaration : Puts ('[' :: ([] ++ "declaration".toList ++ [] ++ [']']))
      (.header ⟨[], "declaration"⟩) :=
    .header (by decide +kernel) isGap_nil isGap_nil
  have hnegative : Puts ("y".toList ++ [' '] ++ '=' :: ([' '] ++ ['-', '1']))
      (.ofPair ("y", .integer (-1))) :=
    .assign (by decide +kernel) hspace hspace (.number (.minus ⟨⟨[['1']], by decide⟩, by decide⟩))
  have hsuffix : Puts ("suffix".toList ++ ['\t'] ++
      '=' :: ([' '] ++ '\'' :: ("_é7".toList ++ ['\'']))) (.ofPair ("suffix", .text "_é7")) :=
    .assign (by decide +kernel) (by decide) hspace (.literal (forall_mem_of_all (by decide)))
  have hfirst (rest) : EndsLine ([] ++ '#' :: "own".toList ++ ['\r', '\n']) rest :=
    ⟨_, _, _, isGap_nil, .inr ⟨_, rfl, forall_mem_of_all (by decide +kernel)⟩, .inr (.inl rfl), rfl⟩
  have hcomment (rest) : EndsLine ([' '] ++ '#' :: " hex".toList ++ ['\n']) rest :=
    ⟨_, _, _, hspace, .inr ⟨_, rfl, forall_mem_of_all (by decide +kernel)⟩, .inl rfl, rfl⟩
  have hreturn (rest) : EndsLine ([] ++ [] ++ ['\r', '\n']) rest :=
    ⟨_, _, _, isGap_nil, .inl rfl, .inr (.inl rfl), rfl⟩
  have hlast : EndsLine ([] ++ ['#'] ++ []) [] :=
    ⟨_, _, _, isGap_nil, .inr ⟨_, rfl, by simp⟩, .inr (.inr ⟨rfl, rfl⟩), rfl⟩
  have hlines := Written.blank (hfirst _)
    (.line isGap_nil hextra (hcomment _) (.line hspace hrender (endsLine_lineFeed _)
      (.line isGap_nil hindent (hreturn _) (.blank (endsLine_lineFeed _)
        (.line isGap_nil hdeclaration (endsLine_lineFeed _)
          (.line isGap_nil hnegative (endsLine_lineFeed _)
            (.line isGap_nil hsuffix (endsLine_lineFeed _) (.blank hlast .nil))))))))
  refine Eq.mp (congrArg (Written · mixedOutline.statements) ?_) hlines
  decide +kernel

theorem ofToml_of_written_mixedText :
    Arranges mixedOutline mixedGiven ∧ mixedGiven.IsProper ∧ IsHeld mixedOutline ∧
      Written mixedText.toList mixedOutline.statements ∧
      ofToml mixedText =
        .ok { naming := { lead := "I", tail := "_é7" }, skipBlank := false, indent := 9 } := by
  have hproper : mixedGiven.IsProper := {
    lead := by rintro text ⟨⟩
    tail := by
      rintro text ⟨⟩
      decide +kernel
    indent := by
      rintro number ⟨⟩
      decide }
  exact ⟨arranges_mixedOutline, hproper, isHeld_mixedOutline, written_mixedText,
    (ofToml_of_written arranges_mixedOutline hproper isHeld_mixedOutline).2 mixedText
      written_mixedText⟩

/-! ## An integer that is too wide -/

/-- An indent, and an integer of 129 bits under a name that is not known. -/
def wideOutline : Outline where
  top := [("f", .integer (2 ^ 128))]
  parts := [("render", [("indent", .integer 3)])]

def wideText : String :=
  "f = 340282366920938463463374607431768211456\n[render]\nindent = 3\n"

theorem ofToml_wideText :
    Arranges wideOutline { indent := some 3 } ∧ Partial.IsProper { indent := some 3 } ∧
      Written wideText.toList wideOutline.statements ∧
      ofToml wideText = .error (.toml Toml.Fault.notHeld.text) := by
  refine ⟨?_, ?_, ?_, by decide +kernel⟩
  · exact {
      distinct := ⟨by decide +kernel, by decide +kernel⟩
      sections := by decide +kernel
      top := by
        intro pair hpair
        obtain rfl := List.mem_singleton.1 hpair
        exact ⟨by decide, by decide +kernel, _, rfl⟩
      pairs := by
        intro part hpart pair hpair
        obtain rfl := List.mem_singleton.1 hpart
        obtain rfl := List.mem_singleton.1 hpair
        exact .inl rfl
      all := by
        intro key value hvalue
        rcases Partial.value?_cases hvalue with ⟨-, _, hgiven, -⟩ | ⟨-, _, hgiven, -⟩ |
          ⟨-, _, hgiven, -⟩ | ⟨rfl, _, hgiven, rfl⟩
        · cases hgiven
        · cases hgiven
        · cases hgiven
        · cases hgiven
          exact ⟨_, List.mem_singleton_self _, List.mem_singleton_self _⟩ }
  · exact ⟨by simp, by simp, by simp⟩
  · have hspace : IsGap [' '] := by decide
    have hwide : Puts ("f".toList ++ [' '] ++ '=' :: ([' '] ++ Nat.toDigits 10 (2 ^ 128)))
        (.ofPair ("f", .integer (2 ^ 128))) :=
      .assign (by decide +kernel) hspace hspace (.number (.plain (decimal_toDigits (2 ^ 128))))
    have hheader : Puts ('[' :: ([] ++ "render".toList ++ [] ++ [']'])) (.header ⟨[], "render"⟩) :=
      .header (by decide +kernel) isGap_nil isGap_nil
    have hindent : Puts ("indent".toList ++ [' '] ++ '=' :: ([' '] ++ Nat.toDigits 10 3))
        (.ofPair ("indent", .integer 3)) :=
      .assign (by decide +kernel) hspace hspace (.number (.plain (decimal_toDigits 3)))
    have hwritten := Written.line isGap_nil hwide (endsLine_lineFeed _)
      (.line isGap_nil hheader (endsLine_lineFeed _)
        (.line isGap_nil hindent (endsLine_lineFeed _) .nil))
    refine Eq.mp (congrArg (Written · wideOutline.statements) ?_) hwritten
    decide +kernel

end Accessors.Settings
