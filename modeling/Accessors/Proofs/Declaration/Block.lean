import Accessors.Declaration.Query

/-!
# Interfaces in a document

A `Block` is an interface with the lines in front of it: lines without a header, the header, the
body and the line that closes it. Where the lines of a document start with a block, the properties
are those of its body, whatever follows (`Block.properties_eq`); and they do start with one exactly
if some line closes the interface (`closingLine?_eq_some_iff`).

Lines without a header may be put in front of a document or taken away (`properties_append`), and of
a line at the front it only matters whether it holds a header (`properties_cons_congr`).
-/

namespace Accessors.Query

open Declaration

/-! ## Looking for the header -/

theorem locate?_append {interface : String} {before : List String}
    (h : ∀ line ∈ before, Header.occursIn interface line = false) (lines : List String) :
    locate? interface (before ++ lines) =
      (locate? interface lines).map fun found => (before.length + found.1, found.2) := by
  induction before with
  | nil => simp
  | cons line before ih =>
    have hline : Header.occursIn interface line = false := h line List.mem_cons_self
    have hbefore := ih fun l hl => h l (List.mem_cons_of_mem line hl)
    rw [List.cons_append, locate?, hline, if_neg (by decide), hbefore, Option.map_map]
    congr 1
    funext found
    simp [Nat.add_right_comm]

theorem locate?_eq_some_iff {interface : String} {lines body : List String} {index : Nat} :
    locate? interface lines = some (index, body) ↔ ∃ before header,
      lines = before ++ header :: body ∧ before.length = index ∧
        (∀ line ∈ before, Header.occursIn interface line = false) ∧
        Header.occursIn interface header = true := by
  constructor
  · intro h
    induction lines generalizing index with
    | nil => simp [locate?] at h
    | cons line rest ih =>
      rw [locate?] at h
      split at h
      · rename_i hline
        cases h
        exact ⟨[], line, rfl, rfl, by simp, hline⟩
      · rename_i hline
        obtain ⟨⟨i, b⟩, hrest, he⟩ := Option.map_eq_some_iff.1 h
        cases he
        obtain ⟨before, header, rfl, rfl, hbefore, hheader⟩ := ih hrest
        refine ⟨line :: before, header, rfl, rfl, ?_, hheader⟩
        exact List.forall_mem_cons.2 ⟨by simpa using hline, hbefore⟩
  · rintro ⟨before, header, rfl, rfl, hbefore, hheader⟩
    rw [locate?_append hbefore, locate?, if_pos hheader]
    simp

theorem properties_append {query : Query} {declaration : String} {before : List String}
    (h : ∀ line ∈ before, Header.occursIn (query.interface declaration) line = false)
    (lines : List String) :
    query.properties (before ++ lines) declaration = query.properties lines declaration := by
  rw [properties, locate?_append h, properties]
  cases locate? (query.interface declaration) lines <;> rfl

theorem properties_cons_congr {query : Query} {declaration line line' : String}
    (h : Header.occursIn (query.interface declaration) line =
      Header.occursIn (query.interface declaration) line') (lines : List String) :
    query.properties (line :: lines) declaration =
      query.properties (line' :: lines) declaration := by
  rw [properties, locate?, h, properties, locate?]

/-! ## Closed interfaces -/

/-- The number of the line that closes an interface, counted from zero, if its header is found and
such a line follows. -/
def closingLine? (interface : String) (lines : List String) : Option Nat :=
  match locate? interface lines with
  | none => none
  | some (index, body) => (body.findIdx? isClosing).map (index + 1 + ·)

/-- An interface and the lines in front of it: the first line with its header, the body, and the
first line behind the header that closes it. -/
structure Block (interface : String) where
  before : List String
  header : String
  body : List String
  closing : String
  before_noHeader : ∀ line ∈ before, Header.occursIn interface line = false
  header_occurs : Header.occursIn interface header = true
  body_open : ∀ line ∈ body, isClosing line = false
  closing_closes : isClosing closing = true

namespace Block

variable {interface : String}

/-- The lines up to the closing one. -/
def lines (block : Block interface) : List String :=
  block.before ++ block.header :: (block.body ++ [block.closing])

theorem length_lines (block : Block interface) :
    block.lines.length = block.before.length + 1 + block.body.length + 1 := by
  simp [lines]
  omega

theorem locate?_lines_append (block : Block interface) (after : List String) :
    locate? interface (block.lines ++ after) =
      some (block.before.length, block.body ++ block.closing :: after) := by
  refine locate?_eq_some_iff.2
    ⟨block.before, block.header, ?_, rfl, block.before_noHeader, block.header_occurs⟩
  simp [lines]

theorem closingLine?_lines_append (block : Block interface) (after : List String) :
    closingLine? interface (block.lines ++ after) =
      some (block.before.length + 1 + block.body.length) := by
  have hfind : (block.body ++ block.closing :: after).findIdx? isClosing =
      some block.body.length := by
    rw [List.findIdx?_append, List.findIdx?_eq_none_iff.2 block.body_open, List.findIdx?_cons,
      block.closing_closes]
    simp
  rw [closingLine?, block.locate?_lines_append]
  simp [hfind]

end Block

theorem fields_append {query : Query} {body : List String} {closing : String}
    (hbody : ∀ line ∈ body, isClosing line = false) (hclosing : isClosing closing = true)
    (after : List String) :
    query.fields (body ++ closing :: after) = (body.filter query.isField).map Property.ofLine := by
  have htake : (body ++ closing :: after).takeWhile (!isClosing ·) = body := by
    rw [List.takeWhile_append_of_pos fun line hline => by rw [hbody line hline]; rfl,
      List.takeWhile_cons, hclosing]
    simp
  rw [fields, htake]

/-- **A document that starts with a block has the properties of its body**, one for each line that
is read as a field, whatever stands behind the block. -/
theorem Block.properties_eq {query : Query} {declaration : String}
    (block : Block (query.interface declaration)) (after : List String) :
    query.properties (block.lines ++ after) declaration =
      (block.body.filter query.isField).map Property.ofLine := by
  rw [properties, block.locate?_lines_append]
  exact fields_append block.body_open block.closing_closes after

theorem exists_block {interface : String} {lines : List String} {index : Nat}
    (h : closingLine? interface lines = some index) :
    ∃ (block : Block interface) (after : List String),
      lines = block.lines ++ after ∧ block.lines.length = index + 1 := by
  rw [closingLine?] at h
  split at h
  · simp at h
  · rename_i i rest hlocate
    obtain ⟨n, hn, rfl⟩ := Option.map_eq_some_iff.1 h
    obtain ⟨before, header, rfl, rfl, hbefore, hheader⟩ := locate?_eq_some_iff.1 hlocate
    obtain ⟨hlt, hclosing, hbody⟩ := List.findIdx?_eq_some_iff_getElem.1 hn
    refine ⟨⟨before, header, rest.take n, rest[n], hbefore, hheader, ?_, hclosing⟩,
      rest.drop (n + 1), ?_, ?_⟩
    · intro line hline
      obtain ⟨j, hj, rfl⟩ := List.mem_take_iff_getElem.1 hline
      exact Bool.eq_false_iff.2 (hbody j (by omega))
    · simp [Block.lines]
    · simp [Block.length_lines]
      omega

theorem closingLine?_eq_some_iff {interface : String} {lines : List String} {index : Nat} :
    closingLine? interface lines = some index ↔
      ∃ (block : Block interface) (after : List String),
        lines = block.lines ++ after ∧ block.lines.length = index + 1 := by
  constructor
  · exact exists_block
  · rintro ⟨block, after, rfl, hlength⟩
    rw [block.length_lines] at hlength
    rw [block.closingLine?_lines_append, Nat.succ.inj hlength]

end Accessors.Query
