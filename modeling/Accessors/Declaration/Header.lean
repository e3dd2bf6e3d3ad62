import Accessors.Error
import Accessors.Unicode.Class

/-!
# Headers of declarations

The header of an interface is the keyword, a space, the name, an optional list of type parameters
and a white space character. It may stand anywhere in a line. `Header.find?` finds the first one,
and `Header.pattern` writes the same rule down as a regular expression. A pattern that is compiled
has a limited size, so that names can be too long for it (`Header.isCompilable`).
-/

namespace Accessors.Declaration

/-- How an interface is named after its declaration. -/
structure Naming where
  /-- What stands in front of the name of the declaration. -/
  lead : String := "I"
  /-- What stands behind the name of the declaration. -/
  tail : String := "Data"
deriving DecidableEq, Repr, Inhabited

def Naming.interface (naming : Naming) (declaration : String) : String :=
  naming.lead ++ declaration ++ naming.tail

namespace Header

/-- The keyword and the space in front of the name of an interface. -/
def keyword : String := "interface "

/-! ## The search -/

/-- Whether a character may stand in a list of type parameters. -/
def isParameterChar (c : Char) : Bool :=
  Unicode.isWord c || Unicode.isBlank c

/-- Takes a list of type parameters off the front of a text: the list and what follows it. -/
def typeParameters? : List Char → Option (List Char × List Char)
  | '<' :: cs =>
    let inner := cs.takeWhile isParameterChar
    match inner, cs.dropWhile isParameterChar with
    | _ :: _, '>' :: rest => some ('<' :: inner ++ ['>'], rest)
    | _, _ => none
  | _ => none

def blank? : List Char → Option (Char × List Char)
  | [] => none
  | c :: cs => if Unicode.isBlank c then some (c, cs) else none

/-- Takes what follows the name off the front of a text: type parameters, if there are any, and a
white space character. -/
def ending? (cs : List Char) : Option (List Char) :=
  match typeParameters? cs with
  | some (parameters, rest) => (blank? rest).map fun (c, _) => parameters ++ [c]
  | none => (blank? cs).map fun (c, _) => [c]

/-- The header at the start of a text, where `opening` is the keyword and the name. -/
def atStart? (opening cs : List Char) : Option (List Char) :=
  match opening.isPrefixOf? cs with
  | some rest => (ending? rest).map (opening ++ ·)
  | none => none

/-- The first header in a text and the text in front of it. -/
def findIn? (opening : List Char) : List Char → Option (List Char × List Char)
  | [] => (atStart? opening []).map fun header => ([], header)
  | c :: cs =>
    match atStart? opening (c :: cs) with
    | some header => some ([], header)
    | none => (findIn? opening cs).map fun (before, header) => (c :: before, header)

/-- The keyword and the name of an interface. -/
def opening (interface : String) : List Char :=
  (keyword ++ interface).toList

/-- The bytes of a line that its first header takes up: where it starts and where it ends. -/
def find? (interface line : String) : Option (Nat × Nat) :=
  (findIn? (opening interface) line.toList).map fun (before, header) =>
    let start := (String.ofList before).utf8ByteSize
    (start, start + (String.ofList header).utf8ByteSize)

def occursIn (interface line : String) : Bool :=
  (find? interface line).isSome

theorem typeParameters?_append {cs parameters rest : List Char}
    (h : typeParameters? cs = some (parameters, rest)) : parameters ++ rest = cs := by
  rw [typeParameters?.eq_def] at h
  split at h
  · rename_i cs
    dsimp only at h
    split at h
    · rename_i c inner rest' h1 h2
      simp at h
      obtain ⟨rfl, rfl⟩ := h
      have := List.takeWhile_append_dropWhile (p := isParameterChar) (l := cs)
      rw [h2] at this
      simpa using this
    · simp at h
  · simp at h

theorem append_of_isPrefixOf? {opening cs rest : List Char}
    (h : opening.isPrefixOf? cs = some rest) : opening ++ rest = cs := by
  induction opening generalizing cs with
  | nil => exact (Option.some.inj h).symm
  | cons o os ih =>
    cases cs with
    | nil => cases h
    | cons c cs =>
      change (if o == c then os.isPrefixOf? cs else none) = some rest at h
      split at h
      · rename_i hc
        rw [List.cons_append, ih h, eq_of_beq hc]
      · simp at h

/-! ## The pattern -/

/-- The characters with a meaning of their own in a regular expression. -/
def special : List Char :=
  ['\\', '.', '+', '*', '?', '(', ')', '|', '[', ']', '\x7b', '\x7d', '^', '$', '#', '&', '-', '~']

/-- A text as a regular expression that matches just this text. -/
def escape (cs : List Char) : List Char :=
  cs.flatMap fun c => if special.contains c then ['\\', c] else [c]

def pattern (interface : String) : String :=
  keyword ++ String.ofList (escape interface.toList) ++ "(<[\\w\\s]+>)?\\s"

/-- The number of bytes that a compiled pattern may take up. -/
def sizeLimit : Nat := 10485760

/-- The number of bytes that the pattern for an interface takes up once it is compiled: a state of 32
bytes for each byte of the keyword and the name, and the states for what follows the name. -/
def compiledSize (interface : String) : Nat :=
  32 * (keyword ++ interface).utf8ByteSize + 51480

/-- Whether a pattern can be compiled for an interface. -/
def isCompilable (interface : String) : Bool :=
  compiledSize interface ≤ sizeLimit

/-- A pattern can be compiled for every name that is not very long. -/
theorem isCompilable_iff {interface : String} :
    isCompilable interface = true ↔ interface.utf8ByteSize ≤ 326061 := by
  have hkeyword : keyword.utf8ByteSize = 10 := by decide
  rw [isCompilable, decide_eq_true_iff, compiledSize, sizeLimit, String.utf8ByteSize_append, hkeyword]
  omega

/-- Why no pattern can be compiled for an interface whose name is too long. -/
def sizeError : Error :=
  .pattern ("Compiled regex exceeds size limit of " ++ toString sizeLimit ++ " bytes.")

end Header

end Accessors.Declaration
