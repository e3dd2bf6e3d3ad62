import Accessors.Proofs.Result
import Accessors.Settings.Source

/-!
# Settings that a document holds

A document holds settings if each of its sections can be read and `Gives` the fields their values:
the value that is written, or the default of the field where none is (`Holds`). Reading answers with
settings exactly if the document holds them and every number in it is held (`ofEntries_eq_ok_iff`).
-/

namespace Accessors.Settings

/-- Whether a field has the value that a document gives it, or its default where the document is
silent. -/
def Gives {α : Type} (default : α) (convert? : Toml.Value → Option α) (value : Option Toml.Value)
    (a : α) : Prop :=
  match value with
  | none => a = default
  | some value => convert? value = some a

/-- Whether the entries of a document hold settings. -/
structure Holds (entries : Toml.Entries) (settings : Settings) : Prop where
  declaration : ∃ values, sectionOf entries "declaration" = .ok values ∧
    Gives "I" text? (values 0 "prefix") settings.naming.lead ∧
    Gives "Data" text? (values 1 "suffix") settings.naming.tail
  extract : ∃ values, sectionOf entries "extract" = .ok values ∧
    Gives false boolean? (values 0 "skip_blank_lines") settings.skipBlank
  render : ∃ values, sectionOf entries "render" = .ok values ∧
    Gives 2 count? (values 0 "indent") settings.indent

theorem fieldOr_eq_ok_iff {α : Type} {default a : α} {convert? : Toml.Value → Option α}
    {value : Option Toml.Value} :
    fieldOr default convert? value = .ok a ↔ Gives default convert? value a := by
  cases value with
  | none => simp [fieldOr, Gives, eq_comm]
  | some value => cases hconvert : convert? value <;> simp [fieldOr, Gives, hconvert]

/-- **Settings are read from a document exactly if it holds them**, and no number in it is too
large. -/
theorem ofEntries_eq_ok_iff {entries : Toml.Entries} {settings : Settings} :
    ofEntries entries = .ok settings ↔
      entries.all isHeldEntry = true ∧ Holds entries settings := by
  by_cases hheld : entries.all isHeldEntry = true
  · simp only [ofEntries, hheld, if_true, bind_eq_ok_iff, fieldOr_eq_ok_iff, true_and]
    constructor
    · rintro ⟨declaration, hdeclaration, lead, hlead, tail, htail, extract, hextract, skipBlank,
        hskip, render, hrender, indent, hindent, hsettings⟩
      obtain rfl := Except.ok.inj hsettings
      exact ⟨⟨declaration, hdeclaration, hlead, htail⟩, ⟨extract, hextract, hskip⟩,
        ⟨render, hrender, hindent⟩⟩
    · intro h
      obtain ⟨declaration, hdeclaration, hlead, htail⟩ := h.declaration
      obtain ⟨extract, hextract, hskip⟩ := h.extract
      obtain ⟨render, hrender, hindent⟩ := h.render
      exact ⟨declaration, hdeclaration, _, hlead, _, htail, extract, hextract, _, hskip, render,
        hrender, _, hindent, rfl⟩
  · refine iff_of_false ?_ fun h => hheld h.1
    simp only [ofEntries, hheld]
    intro h
    cases h

end Accessors.Settings
