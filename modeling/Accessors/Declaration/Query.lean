import Accessors.Declaration.Header
import Accessors.Declaration.Property

/-!
# Looking for the properties of a declaration

The interface of a declaration is the first line with its header and the lines up to one that is a
closing brace and nothing else. A `Query` says how to look: `locate?` finds the header, and
`Query.properties` gives the properties, one for each of these lines, in order. `Query.extract` fails
before it looks at a line if no pattern can be compiled for the header.
-/

namespace Accessors

/-- How to look for the properties of a declaration. -/
structure Query where
  naming : Declaration.Naming := {}
  /-- Whether lines of white space only are passed over instead of read as fields. -/
  skipBlank : Bool := false
deriving DecidableEq, Repr, Inhabited

namespace Query

def interface (query : Query) (declaration : String) : String :=
  query.naming.interface declaration

/-- Whether a line closes an interface. An indented brace does not. -/
def isClosing (line : String) : Bool :=
  line == "\x7d" || line == "\x7d;"

def isField (query : Query) (line : String) : Bool :=
  !(query.skipBlank && Text.isBlankText line.toList)

/-- The number of the first line with the header of an interface, counted from zero, and the lines
after it. -/
def locate? (interface : String) : List String → Option (Nat × List String)
  | [] => none
  | line :: rest =>
    if Declaration.Header.occursIn interface line then
      some (0, rest)
    else
      (locate? interface rest).map fun (index, body) => (index + 1, body)

/-- The properties that the lines after a header declare. -/
def fields (query : Query) (lines : List String) : List Property :=
  ((lines.takeWhile (!isClosing ·)).filter query.isField).map Property.ofLine

/-- The properties of a declaration; without a header there are none. -/
def properties (query : Query) (lines : List String) (declaration : String) : List Property :=
  match locate? (query.interface declaration) lines with
  | none => []
  | some (_, body) => query.fields body

/-- The properties of a declaration, if its header has a pattern. -/
def extract (query : Query) (lines : List String) (declaration : String) :
    Except Error (List Property) :=
  if Declaration.Header.isCompilable (query.interface declaration) then
    .ok (query.properties lines declaration)
  else
    .error Declaration.Header.sizeError

theorem extract_eq_ok_iff {query : Query} {lines : List String} {declaration : String}
    {ps : List Property} :
    query.extract lines declaration = .ok ps ↔
      Declaration.Header.isCompilable (query.interface declaration) = true ∧
        query.properties lines declaration = ps := by
  rw [extract]
  split
  · rename_i hcompiles
    simp [hcompiles]
  · rename_i hcompiles
    simp [hcompiles]

theorem extract_eq_error_iff {query : Query} {lines : List String} {declaration : String}
    {error : Error} :
    query.extract lines declaration = .error error ↔
      Declaration.Header.isCompilable (query.interface declaration) = false ∧
        error = Declaration.Header.sizeError := by
  rw [extract]
  split
  · rename_i hcompiles
    simp [hcompiles]
  · rename_i hcompiles
    simp [hcompiles, eq_comm]

theorem extract_congr {query : Query} {lines lines' : List String} {declaration : String}
    (h : query.properties lines declaration = query.properties lines' declaration) :
    query.extract lines declaration = query.extract lines' declaration := by
  rw [extract, extract, h]

theorem locate?_eq_some {interface : String} {lines body : List String} {index : Nat}
    (h : locate? interface lines = some (index, body)) :
    ∃ line, lines.drop index = line :: body ∧
      Declaration.Header.occursIn interface line = true := by
  induction lines generalizing index with
  | nil => simp [locate?] at h
  | cons line rest ih =>
    rw [locate?] at h
    split at h
    · rename_i hl
      cases h
      exact ⟨line, rfl, hl⟩
    · obtain ⟨⟨i, b⟩, hb, h⟩ := Option.map_eq_some_iff.1 h
      cases h
      exact ih hb

theorem locate?_eq_none_iff {interface : String} {lines : List String} :
    locate? interface lines = none ↔
      ∀ line ∈ lines, Declaration.Header.occursIn interface line = false := by
  induction lines with
  | nil => simp [locate?]
  | cons line rest ih =>
    rw [locate?]
    split
    · rename_i hl
      simp [hl]
    · rename_i hl
      simp [ih, hl]

end Query

end Accessors
