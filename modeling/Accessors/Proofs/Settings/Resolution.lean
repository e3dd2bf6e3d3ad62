import Accessors.CommandLine.Invocation
import Accessors.Proofs.Settings.Source

/-!
# Where settings come from

An invocation starts from the settings of its settings file, or from the defaults if it names none
(`StartsFrom`), and puts its options over them (`Merges`). Only what comes out of that is checked.
It is the answer if it is `IsValid`; if not, the error names the first field that is `Refused`. So a
value in the file that an option takes the place of is never looked at, but the file has to be there
and has to be settings whatever the options are (`settings_resolution`).
-/

namespace Accessors

/-! ## Checks -/

namespace Check

/-- Whether a character may stand in an affix. -/
def IsAffixLetter (c : Char) : Prop :=
  Unicode.isAlphanumeric c = true ∨ c = '_'

/-- Whether a text is an affix; it may be empty. -/
def IsAffix (text : String) : Prop :=
  ∀ c ∈ text.toList, IsAffixLetter c

/-- Whether a character is the first of a text that may not stand in an affix. -/
def FirstBad (text : String) (bad : Char) : Prop :=
  ∃ front rest, text.toList = front ++ bad :: rest ∧ (∀ c ∈ front, IsAffixLetter c) ∧
    ¬ IsAffixLetter bad

theorem isAffixChar_iff {c : Char} : isAffixChar c = true ↔ IsAffixLetter c := by
  simp [isAffixChar, IsAffixLetter]

instance : DecidablePred IsAffixLetter := fun c =>
  decidable_of_iff (isAffixChar c = true) isAffixChar_iff

instance (text : String) : Decidable (IsAffix text) :=
  List.decidableBAll _ text.toList

theorem find?_eq_some_iff {text : String} {c : Char} :
    text.toList.find? (!isAffixChar ·) = some c ↔ FirstBad text c := by
  rw [List.find?_eq_some_iff_append, FirstBad]
  simp only [Bool.not_eq_eq_eq_not, Bool.not_true, ← Bool.not_eq_true, isAffixChar_iff,
    Classical.not_not]
  constructor
  · rintro ⟨hbad, front, rest, htext, hfront⟩
    exact ⟨front, rest, htext, hfront, hbad⟩
  · rintro ⟨front, rest, htext, hfront, hbad⟩
    exact ⟨hbad, front, rest, htext, hfront⟩

theorem find?_eq_none_iff {text : String} :
    text.toList.find? (!isAffixChar ·) = none ↔ IsAffix text := by
  simp [IsAffix, List.find?_eq_none, isAffixChar_iff]

theorem affix_eq_ok_iff {field text : String} {u : Unit} :
    affix field text = .ok u ↔ IsAffix text := by
  rw [affix, ← find?_eq_none_iff]
  cases text.toList.find? (!isAffixChar ·) <;> simp

theorem affix_eq_error_iff {field text : String} {error : Error} :
    affix field text = .error error ↔
      ∃ bad, FirstBad text bad ∧ error = .value field text (.badCharacter bad) := by
  simp only [affix, ← find?_eq_some_iff]
  cases text.toList.find? (!isAffixChar ·) <;> simp [eq_comm]

theorem range_eq_ok_iff {field : String} {most number : Nat} {u : Unit} :
    range field 0 most number = .ok u ↔ number ≤ most := by
  rw [range]
  split
  · refine iff_of_false (by simp) ?_
    omega
  · refine iff_of_true rfl ?_
    omega

theorem range_eq_error_iff {field : String} {most number : Nat} {error : Error} :
    range field 0 most number = .error error ↔
      most < number ∧ error = .value field (toString number) (.outOfRange 0 most) := by
  rw [range]
  split
  · have hlarge : most < number := by omega
    simp only [Except.error.injEq, hlarge, true_and]
    exact eq_comm
  · have hsmall : ¬ most < number := by omega
    simp [hsmall]

end Check

/-! ## Settings that are accepted -/

namespace Settings

open Check

/-- Whether settings have affixes of letters, numbers and underscores, and an indent of eight spaces
or less. -/
structure IsValid (settings : Settings) : Prop where
  lead : IsAffix settings.naming.lead
  tail : IsAffix settings.naming.tail
  indent : settings.indent ≤ 8

/-- What is said about settings that are not valid. It is about one field, and those in front of it
are valid. -/
inductive Refused (settings : Settings) : Error → Prop
  | lead {bad : Char} (hbad : FirstBad settings.naming.lead bad) :
      Refused settings (.value "declaration.prefix" settings.naming.lead (.badCharacter bad))
  | tail {bad : Char} (hlead : IsAffix settings.naming.lead)
      (hbad : FirstBad settings.naming.tail bad) :
      Refused settings (.value "declaration.suffix" settings.naming.tail (.badCharacter bad))
  | indent (hlead : IsAffix settings.naming.lead) (htail : IsAffix settings.naming.tail)
      (hlarge : 8 < settings.indent) :
      Refused settings (.value "render.indent" (toString settings.indent) (.outOfRange 0 8))

theorem check_eq_ok_iff {settings : Settings} : settings.check = .ok () ↔ settings.IsValid := by
  simp only [check, bind_eq_ok_iff, affix_eq_ok_iff, exists_const, maxIndent]
  rw [range_eq_ok_iff]
  constructor
  · rintro ⟨hlead, htail, hindent⟩
    exact ⟨hlead, htail, hindent⟩
  · rintro ⟨hlead, htail, hindent⟩
    exact ⟨hlead, htail, hindent⟩

theorem check_eq_error_iff {settings : Settings} {error : Error} :
    settings.check = .error error ↔ settings.Refused error := by
  simp only [check, bind_eq_error_iff, affix_eq_ok_iff, affix_eq_error_iff, exists_const,
    maxIndent]
  rw [range_eq_error_iff]
  constructor
  · rintro (⟨bad, hbad, rfl⟩ | ⟨hlead, ⟨bad, hbad, rfl⟩ | ⟨htail, hlarge, rfl⟩⟩)
    · exact .lead hbad
    · exact .tail hlead hbad
    · exact .indent hlead htail hlarge
  · intro h
    cases h with
    | lead hbad => exact .inl ⟨_, hbad, rfl⟩
    | tail hlead hbad => exact .inr ⟨hlead, .inl ⟨_, hbad, rfl⟩⟩
    | indent hlead htail hlarge => exact .inr ⟨hlead, .inr ⟨htail, hlarge, rfl⟩⟩

/-- Whether a text is a document that holds settings. -/
def ReadAs (text : String) (settings : Settings) : Prop :=
  ∃ entries, Toml.parse text = .ok entries ∧ entries.all isHeldEntry = true ∧
    Holds entries settings

theorem ofToml_eq_ok_iff {text : String} {settings : Settings} :
    ofToml text = .ok settings ↔ ReadAs text settings := by
  simp only [ReadAs, ← ofEntries_eq_ok_iff, ← bind_eq_ok_iff, ofToml]
  cases Toml.parse text >>= ofEntries <;> simp

theorem exists_fault_of_not_readAs {text : String} (h : ∀ settings, ¬ ReadAs text settings) :
    ∃ fault : Toml.Fault, ofToml text = .error (.toml fault.text) := by
  rw [ofToml]
  split
  · rename_i settings hread
    refine absurd ?_ (h settings)
    rw [← ofToml_eq_ok_iff, ofToml, hread]
  · rename_i fault _
    exact ⟨fault, rfl⟩

end Settings

/-! ## What an invocation comes to -/

namespace Invocation

open Settings Check

/-- Whether a value is the one that is given, or the fallback where none is given. -/
def Prevails {α : Type} (given : Option α) (fallback value : α) : Prop :=
  given = some value ∨ (given = none ∧ value = fallback)

/-- Whether settings come about from others by the options of an invocation. -/
structure Merges (invocation : Invocation) (start merged : Settings) : Prop where
  lead : Prevails invocation.lead start.naming.lead merged.naming.lead
  tail : Prevails invocation.tail start.naming.tail merged.naming.tail
  indent : Prevails invocation.indent start.indent merged.indent
  skipBlank : merged.skipBlank = true ↔ invocation.skipBlank = true ∨ start.skipBlank = true

/-- Whether settings are those an invocation starts from: the defaults, or what its settings file
says. -/
inductive StartsFrom (invocation : Invocation) (tree : Files.Tree) : Settings → Prop
  | defaults (hconfig : invocation.config = none) :
      StartsFrom invocation tree
        { naming := { lead := "I", tail := "Data" }, skipBlank := false, indent := 2 }
  | file {path text : String} {start : Settings} (hconfig : invocation.config = some path)
      (hread : tree.readText? path = .ok text) (hsettings : ReadAs text start) :
      StartsFrom invocation tree start

/-- Whether each option is valid, and each of the settings that no option takes the place of. -/
structure Accepts (invocation : Invocation) (start : Settings) : Prop where
  lead_given : ∀ given, invocation.lead = some given → IsAffix given
  lead_kept : invocation.lead = none → IsAffix start.naming.lead
  tail_given : ∀ given, invocation.tail = some given → IsAffix given
  tail_kept : invocation.tail = none → IsAffix start.naming.tail
  indent_given : ∀ given, invocation.indent = some given → given ≤ 8
  indent_kept : invocation.indent = none → start.indent ≤ 8

theorem prevails_getD {α : Type} (given : Option α) (fallback : α) :
    Prevails given fallback (given.getD fallback) := by
  cases given with
  | none => exact .inr ⟨rfl, rfl⟩
  | some value => exact .inl rfl

theorem merges_override (invocation : Invocation) (start : Settings) :
    invocation.Merges start (invocation.override start) where
  lead := prevails_getD _ _
  tail := prevails_getD _ _
  indent := prevails_getD _ _
  skipBlank := by simp [override]

theorem Prevails.eq_getD {α : Type} {given : Option α} {fallback value : α}
    (h : Prevails given fallback value) : value = given.getD fallback := by
  rcases h with rfl | ⟨rfl, rfl⟩ <;> rfl

theorem Merges.eq_override {invocation : Invocation} {start merged : Settings}
    (h : invocation.Merges start merged) : merged = invocation.override start := by
  obtain ⟨⟨lead, tail⟩, skipBlank, indent⟩ := merged
  have hskip : skipBlank = (invocation.skipBlank || start.skipBlank) := by
    rw [Bool.eq_iff_iff, Bool.or_eq_true]
    exact h.skipBlank
  obtain rfl : lead = invocation.lead.getD start.naming.lead := h.lead.eq_getD
  obtain rfl : tail = invocation.tail.getD start.naming.tail := h.tail.eq_getD
  obtain rfl : indent = invocation.indent.getD start.indent := h.indent.eq_getD
  rw [override, hskip]

theorem forall_prevails_iff {α : Type} {P : α → Prop} {given : Option α} {fallback value : α}
    (h : Prevails given fallback value) :
    P value ↔ (∀ a, given = some a → P a) ∧ (given = none → P fallback) := by
  rcases h with rfl | ⟨rfl, rfl⟩ <;> simp

theorem Merges.isValid_iff {invocation : Invocation} {start merged : Settings}
    (h : invocation.Merges start merged) : merged.IsValid ↔ invocation.Accepts start := by
  have hlead := forall_prevails_iff (P := IsAffix) h.lead
  have htail := forall_prevails_iff (P := IsAffix) h.tail
  have hindent := forall_prevails_iff (P := (· ≤ 8)) h.indent
  constructor
  · intro hvalid
    obtain ⟨hlead, hlead'⟩ := hlead.1 hvalid.lead
    obtain ⟨htail, htail'⟩ := htail.1 hvalid.tail
    obtain ⟨hindent, hindent'⟩ := hindent.1 hvalid.indent
    exact ⟨hlead, hlead', htail, htail', hindent, hindent'⟩
  · intro haccepts
    exact ⟨hlead.2 ⟨haccepts.lead_given, haccepts.lead_kept⟩,
      htail.2 ⟨haccepts.tail_given, haccepts.tail_kept⟩,
      hindent.2 ⟨haccepts.indent_given, haccepts.indent_kept⟩⟩

theorem StartsFrom.fileSettings_eq {invocation : Invocation} {tree : Files.Tree} {start : Settings}
    (h : invocation.StartsFrom tree start) : invocation.fileSettings tree = .ok start := by
  rw [fileSettings]
  cases h with
  | defaults hconfig => rw [hconfig]
  | file hconfig hread hsettings =>
    rw [hconfig]
    simp only [ofFile, hread]
    exact ofToml_eq_ok_iff.2 hsettings

theorem settings_eq_of_start {invocation : Invocation} {tree : Files.Tree} {start : Settings}
    (h : invocation.fileSettings tree = .ok start) :
    invocation.settings tree =
      (invocation.override start).check.map fun _ => invocation.override start := by
  rw [settings, h]
  rfl

/-- **An option wins over the settings file, the file over the default, and only what they come to
is checked**: it is the answer if it is valid, and otherwise the error is about its first field that
is not. A settings file that cannot be read or is none is an error whatever the options are. -/
theorem settings_resolution (tree : Files.Tree) :
    (∀ (invocation : Invocation) (start : Settings), invocation.StartsFrom tree start →
      ∃ merged, invocation.Merges start merged ∧
        (∀ settings, invocation.settings tree = .ok settings ↔
          settings = merged ∧ merged.IsValid) ∧
        (∀ error, invocation.settings tree = .error error ↔ merged.Refused error) ∧
        (merged.IsValid ↔ invocation.Accepts start)) ∧
    (∀ path fault, tree.readText? path = .error fault →
      ∀ invocation : Invocation, invocation.config = some path →
        invocation.settings tree = .error (.file fault)) ∧
    ∀ path text, tree.readText? path = .ok text → (∀ settings, ¬ ReadAs text settings) →
      ∃ fault : Toml.Fault, ∀ invocation : Invocation, invocation.config = some path →
        invocation.settings tree = .error (.toml fault.text) := by
  refine ⟨?_, ?_, ?_⟩
  · intro invocation start hstart
    have hmerges := invocation.merges_override start
    refine ⟨invocation.override start, hmerges, ?_, ?_, hmerges.isValid_iff⟩
    · intro settings
      rw [settings_eq_of_start hstart.fileSettings_eq, ← check_eq_ok_iff]
      cases (invocation.override start).check <;> simp [Except.map, eq_comm]
    · intro error
      rw [settings_eq_of_start hstart.fileSettings_eq, ← check_eq_error_iff]
      cases (invocation.override start).check <;> simp [Except.map]
  · intro path fault hread invocation hconfig
    rw [Invocation.settings, fileSettings, hconfig]
    simp only [ofFile, hread]
    rfl
  · intro path text hread hnone
    obtain ⟨fault, hfault⟩ := exists_fault_of_not_readAs hnone
    refine ⟨fault, fun invocation hconfig => ?_⟩
    rw [Invocation.settings, fileSettings, hconfig]
    simp only [ofFile, hread, hfault]
    rfl

/-- A settings file with a prefix that is no affix, and a file that is no settings file. -/
def settingsTree : Files.Tree :=
  (Files.Tree.put {} ["own.toml"] (.file
    "[declaration]\nprefix = \"a-b\"\n[render]\nindent = 3\n".toUTF8 0o644)).put
      ["none.toml"] (.file "[render]\nindent = \"wide\"\n".toUTF8 0o644)

theorem settings_resolution_settingsTree :
    let own : Settings := { naming := { lead := "a-b" }, indent := 3 }
    let kept : Invocation :=
      { file := "Foo.ts", line := 1, config := some "own.toml", indent := some 20 }
    let given : Invocation :=
      { file := "Foo.ts", line := 1, config := some "own.toml", lead := some "X" }
    let wide : Invocation := { given with indent := some 20 }
    (kept.StartsFrom settingsTree own ∧ kept.settings settingsTree =
        .error (.value "declaration.prefix" "a-b" (.badCharacter '-'))) ∧
      (given.StartsFrom settingsTree own ∧ given.settings settingsTree =
        .ok { naming := { lead := "X" }, indent := 3 }) ∧
      (wide.StartsFrom settingsTree own ∧ wide.settings settingsTree =
        .error (.value "render.indent" "20" (.outOfRange 0 8))) ∧
      { given with config := some "gone.toml" }.settings settingsTree = .error (.file .notFound) ∧
      ∃ fault : Toml.Fault, { given with config := some "none.toml" }.settings settingsTree =
        .error (.toml fault.text) := by
  intro own kept given wide
  obtain ⟨hmerged, hunreadable, hmalformed⟩ := settings_resolution settingsTree
  have hown : ReadAs "[declaration]\nprefix = \"a-b\"\n[render]\nindent = 3\n" own :=
    ofToml_eq_ok_iff.1 (by decide +kernel)
  have hnone : ∀ settings, ¬ ReadAs "[render]\nindent = \"wide\"\n" settings := by
    intro settings hread
    have herror : ofToml "[render]\nindent = \"wide\"\n" =
        .error (.toml Toml.Fault.mismatched.text) := by decide +kernel
    cases herror.symm.trans (ofToml_eq_ok_iff.2 hread)
  have hletter : IsAffixLetter 'a' := by decide +kernel
  have hbad : FirstBad "a-b" '-' :=
    ⟨['a'], ['b'], by decide, by simpa using hletter, by decide +kernel⟩
  have hgiven : IsAffix "X" := by decide +kernel
  have hdefault : IsAffix "Data" := by decide +kernel
  have hstart : ∀ invocation : Invocation, invocation.config = some "own.toml" →
      invocation.StartsFrom settingsTree own := fun _ hconfig => .file hconfig (by rfl) hown
  refine ⟨⟨hstart kept rfl, ?_⟩, ⟨hstart given rfl, ?_⟩, ⟨hstart wide rfl, ?_⟩, ?_, ?_⟩
  · obtain ⟨merged, hmerges, -, herror, -⟩ := hmerged kept own (hstart kept rfl)
    rw [hmerges.eq_override] at herror
    exact (herror _).2 (.lead hbad)
  · obtain ⟨merged, hmerges, hok, -, -⟩ := hmerged given own (hstart given rfl)
    rw [hmerges.eq_override] at hok
    exact (hok _).2 ⟨rfl, hgiven, hdefault, by decide⟩
  · obtain ⟨merged, hmerges, -, herror, -⟩ := hmerged wide own (hstart wide rfl)
    rw [hmerges.eq_override] at herror
    have hlarge : 8 < (wide.override own).indent := by decide
    have hshown : toString (wide.override own).indent = "20" := by decide +kernel
    rw [← hshown]
    exact (herror _).2 (.indent hgiven hdefault hlarge)
  · exact hunreadable "gone.toml" .notFound (by rfl) _ rfl
  · obtain ⟨fault, hfault⟩ := hmalformed "none.toml" _ (by rfl) hnone
    exact ⟨fault, hfault _ rfl⟩

end Invocation

end Accessors
