import Accessors.Proofs.Toml.Written
import Accessors.Toml.Document
import Mathlib.Data.List.Nodup

/-!
# Documents of pairs and parts

An `Outline` is what a document has in it if no table stands in another: pairs in front of all
headers, and the pairs under each header. If no name is there twice in one place, the statements of
an outline make up its entries, one statement after the other (`ofStatements?_outline`), and so
every text that these are written as is a document with these entries (`parse_of_written`).
-/

namespace Accessors.Toml

/-- The statement that gives a name a value. -/
def Statement.ofPair (pair : String × Value) : Statement :=
  .assign ⟨[], pair.1⟩ pair.2

/-- Pairs in front of all headers, and headers with the pairs under them. -/
structure Outline where
  top : Entries
  parts : List (String × Entries)

namespace Outline

/-- What a part is in the document: a table of its own. -/
def entry (part : String × Entries) : String × Value :=
  (part.1, .table .header part.2)

def entries (outline : Outline) : Entries :=
  outline.top ++ outline.parts.map entry

/-- A part is written as its header and the pairs under it. -/
def lines (part : String × Entries) : List Statement :=
  .header ⟨[], part.1⟩ :: part.2.map .ofPair

def statements (outline : Outline) : List Statement :=
  outline.top.map .ofPair ++ outline.parts.flatMap lines

/-- All pairs, wherever they stand. -/
def pairs (outline : Outline) : Entries :=
  outline.top ++ outline.parts.flatMap Prod.snd

/-- Whether no name is there twice in one place. -/
structure IsDistinct (outline : Outline) : Prop where
  names : (outline.entries.map Prod.fst).Nodup
  partNames : ∀ part ∈ outline.parts, (part.2.map Prod.fst).Nodup

end Outline

/-! ## Entries -/

namespace Entries

variable {entries done : Entries} {name : String} {value : Value}

theorem lookup_of_notMem (h : name ∉ entries.map Prod.fst) : entries.lookup name = none := by
  rw [List.lookup_eq_none_iff]
  intro entry hentry
  rw [bne_iff_ne]
  rintro rfl
  exact h (List.mem_map_of_mem hentry)

theorem notMem_of_nodup {α : Type} {front rest : List (String × α)} {entry : String × α}
    (h : ((front ++ entry :: rest).map Prod.fst).Nodup) : entry.1 ∉ front.map Prod.fst := by
  intro hmem
  rw [List.map_append, List.map_cons] at h
  exact (List.nodup_append.1 h).2.2 _ hmem _ List.mem_cons_self rfl

theorem lookup_of_mem (hnodup : (entries.map Prod.fst).Nodup) (hmem : (name, value) ∈ entries) :
    entries.lookup name = some value := by
  obtain ⟨front, rest, rfl⟩ := List.append_of_mem hmem
  rw [List.lookup_append, lookup_of_notMem (notMem_of_nodup hnodup)]
  simp

theorem lookup_concat (h : name ∉ done.map Prod.fst) (value : Value) :
    (done ++ [(name, value)]).lookup name = some value := by
  rw [List.lookup_append, lookup_of_notMem h]
  simp

theorem replace_concat (h : name ∉ done.map Prod.fst) (value next : Value) :
    replace (done ++ [(name, value)]) name next = done ++ [(name, next)] := by
  have hkeep : ∀ entry ∈ done, (if entry.1 = name then (name, next) else entry) = entry := by
    intro entry hentry
    rw [if_neg]
    rintro rfl
    exact h (List.mem_map_of_mem hentry)
  rw [replace, List.map_append, List.map_congr_left hkeep]
  simp

end Entries

/-! ## One statement -/

namespace Draft

variable {done inner : Entries} {pair : String × Value} {name : String}

theorem assign_of_notMem (h : pair.1 ∉ inner.map Prod.fst) :
    Entries.assign ⟨[], pair.1⟩ pair.2 .header inner = some (inner ++ [pair]) := by
  rw [Entries.assign, Entries.change, Entries.add, Entries.lookup_of_notMem h]
  rfl

theorem extend?_top (h : pair.1 ∉ inner.map Prod.fst) :
    extend? ⟨inner, []⟩ (.ofPair pair) = some ⟨inner ++ [pair], []⟩ := by
  rw [Statement.ofPair, extend?, Entries.change, assign_of_notMem h]
  rfl

theorem extend?_part (hname : name ∉ done.map Prod.fst) (h : pair.1 ∉ inner.map Prod.fst) :
    extend? ⟨done ++ [(name, .table .header inner)], [name]⟩ (.ofPair pair) =
      some ⟨done ++ [(name, .table .header (inner ++ [pair]))], [name]⟩ := by
  rw [Statement.ofPair, extend?, Entries.change, Entries.lookup_concat hname]
  simp only [Entries.change, assign_of_notMem h, Passage.admits]
  simp [Entries.replace_concat hname]

theorem extend?_header {current : List String} (hname : name ∉ done.map Prod.fst) :
    extend? ⟨done, current⟩ (.header ⟨[], name⟩) =
      some ⟨done ++ [(name, .table .header [])], [name]⟩ := by
  rw [extend?, Entries.change, Entries.openTable, Entries.lookup_of_notMem hname]
  rfl

/-! ## All statements -/

theorem foldlM_pairs {place : Entries → Draft}
    (hstep : ∀ inner pair, pair.1 ∉ inner.map Prod.fst →
      extend? (place inner) (.ofPair pair) = some (place (inner ++ [pair])))
    {pairs inner : Entries} (hnodup : ((inner ++ pairs).map Prod.fst).Nodup) :
    (pairs.map .ofPair).foldlM extend? (place inner) = some (place (inner ++ pairs)) := by
  induction pairs generalizing inner with
  | nil => simp
  | cons pair pairs ih =>
    have hnext : ((inner ++ [pair] ++ pairs).map Prod.fst).Nodup := by simpa using hnodup
    rw [List.map_cons, List.foldlM_cons, hstep inner pair (Entries.notMem_of_nodup hnodup)]
    simpa using ih hnext

theorem foldlM_parts {parts : List (String × Entries)} {done : Entries} (current : List String)
    (hnodup : ((done ++ parts.map Outline.entry).map Prod.fst).Nodup)
    (hparts : ∀ part ∈ parts, (part.2.map Prod.fst).Nodup) :
    ∃ last, (parts.flatMap Outline.lines).foldlM extend? ⟨done, current⟩ =
      some ⟨done ++ parts.map Outline.entry, last⟩ := by
  induction parts generalizing done current with
  | nil => exact ⟨current, by simp⟩
  | cons part parts ih =>
    obtain ⟨name, pairs⟩ := part
    obtain ⟨hpairs, hparts⟩ := List.forall_mem_cons.1 hparts
    have hnew : name ∉ done.map Prod.fst := Entries.notMem_of_nodup hnodup
    have hnext : ((done ++ [(name, Value.table .header pairs)] ++ parts.map Outline.entry).map
        Prod.fst).Nodup := by
      simpa [Outline.entry] using hnodup
    have hpart : (pairs.map .ofPair).foldlM extend? ⟨done ++ [(name, .table .header [])], [name]⟩ =
        some ⟨done ++ [(name, .table .header pairs)], [name]⟩ :=
      foldlM_pairs (fun _ _ h => extend?_part hnew h) hpairs
    obtain ⟨last, hlast⟩ := ih [name] hnext hparts
    refine ⟨last, ?_⟩
    rw [List.flatMap_cons, List.foldlM_append, Outline.lines, List.foldlM_cons,
      extend?_header hnew]
    simp only [Option.bind_eq_bind, Option.bind_some, hpart]
    simpa [Outline.entry] using hlast

end Draft

theorem ofStatements?_outline {outline : Outline} (h : outline.IsDistinct) :
    Entries.ofStatements? outline.statements = some outline.entries := by
  have htop : (outline.top.map .ofPair).foldlM Draft.extend? {} = some ⟨outline.top, []⟩ := by
    refine Draft.foldlM_pairs (fun _ _ hnew => Draft.extend?_top hnew) ?_
    have hnames := h.names
    rw [Outline.entries, List.map_append] at hnames
    exact hnames.of_append_left
  obtain ⟨last, hparts⟩ := Draft.foldlM_parts [] h.names h.partNames
  rw [Entries.ofStatements?, Outline.statements, List.foldlM_append, htop]
  simp only [Option.bind_eq_bind, Option.bind_some, hparts]
  rfl

/-- **A text that the statements of an outline are written as** is a document with its entries. -/
theorem parse_of_written {outline : Outline} {text : String} (h : outline.IsDistinct)
    (hwritten : Written text.toList outline.statements) :
    Toml.parse text = .ok outline.entries := by
  rw [Toml.parse, readAll?_of_written hwritten]
  simp only [ofStatements?_outline h]

end Accessors.Toml
