import Accessors.Proofs.Text.InsertionPoint
import Mathlib.Algebra.Ring.Nat

/-!
# Byte offsets within words

Lengths and offsets are kept in words, which hold the numbers below some `size`. An operation of
`Word` has no result where it would leave its word. Counted in this way, line by line from the start
of the document, the bytes in front of a position are never too many, if the document itself fits
(`bytesBeforeWithin?_eq`): what is counted of it is always a part of it.
-/

namespace Accessors

namespace Word

def add? (size a b : Nat) : Option Nat :=
  if a + b < size then some (a + b) else none

def mul? (size a b : Nat) : Option Nat :=
  if a * b < size then some (a * b) else none

/-- The difference of two numbers, which is not negative. -/
def sub? (a b : Nat) : Option Nat :=
  if b ≤ a then some (a - b) else none

/-- The sum of some numbers, added up one after the other. -/
def sum? (size : Nat) (ns : List Nat) : Option Nat :=
  ns.foldlM (add? size) 0

variable {size a b : Nat}

theorem add?_eq_some (h : a + b < size) : add? size a b = some (a + b) :=
  if_pos h

theorem add?_eq_none (h : size ≤ a + b) : add? size a b = none :=
  if_neg (Nat.not_lt.2 h)

theorem mul?_eq_some (h : a * b < size) : mul? size a b = some (a * b) :=
  if_pos h

theorem sub?_eq_some (h : b ≤ a) : sub? a b = some (a - b) :=
  if_pos h

theorem foldlM_add? {ns : List Nat} (ha : a < size) :
    ns.foldlM (add? size) a = if a + ns.sum < size then some (a + ns.sum) else none := by
  induction ns generalizing a with
  | nil => simp [ha]
  | cons n ns ih =>
    rw [List.foldlM_cons, List.sum_cons, ← Nat.add_assoc]
    rcases Nat.lt_or_ge (a + n) size with hn | hn
    · rw [add?_eq_some hn]
      exact ih hn
    · rw [add?_eq_none hn, if_neg (by omega)]
      rfl

theorem sum?_eq {ns : List Nat} (h : 0 < size) :
    sum? size ns = if ns.sum < size then some ns.sum else none := by
  rw [sum?, foldlM_add? h, Nat.zero_add]

end Word

namespace Text

/-- The bytes in front of a line and a character of it, counted from the start of another line on:
`start` bytes of a text with `total` bytes are in front of that one, and `cs` is the rest. -/
def offsetFrom? (size total character : Nat) : Nat → Nat → List Char → Option Nat
  | 0, start, cs => Word.add? size start (byteLength ((shown cs).take character))
  | n + 1, start, cs =>
    match cs.dropWhile (· ≠ '\n') with
    | [] => some total
    | _ :: rest => do
      let step ← Word.add? size (byteLength (cs.takeWhile (· ≠ '\n'))) 1
      let next ← Word.add? size start step
      offsetFrom? size total character n next rest

/-- How many bytes of a document are in front of a position, counted line by line. -/
def bytesBeforeWithin? (size : Nat) (text : String) (position : Position) : Option Nat :=
  offsetFrom? size text.utf8ByteSize position.character.toNat position.line.toNat 0 text.toList

theorem cutLine_lineFeed_append {line : List Char} (h : '\n' ∉ line) (n : Nat)
    (rest : List Char) :
    cutLine (n + 1) (line ++ '\n' :: rest) =
      (line ++ '\n' :: (cutLine n rest).1, (cutLine n rest).2) := by
  have hcut := (lineCut_cutLine n rest).cons_lineFeed.append_left (Nat.succ_pos n) line
  rw [List.count_eq_zero.2 h, Nat.zero_add] at hcut
  have heq := cutLine_of_lineCut hcut
  rwa [List.append_assoc, List.cons_append, cutLine_append] at heq

theorem fst_cutAt_of_notMem {cs : List Char} (h : '\n' ∉ cs) (n character : Nat) :
    (cutAt (n + 1) character cs).1 = cs := by
  have hcount : cs.count '\n' < n + 1 := by
    rw [List.count_eq_zero.2 h]
    exact Nat.succ_pos n
  rw [cutAt, cutLine_of_count_lt hcount]
  cases character <;> exact List.append_nil cs

theorem fst_cutAt_lineFeed_append {line : List Char} (h : '\n' ∉ line) (n character : Nat)
    (rest : List Char) :
    (cutAt (n + 1) character (line ++ '\n' :: rest)).1 =
      line ++ '\n' :: (cutAt n character rest).1 := by
  simp only [cutAt, cutLine_lineFeed_append h, List.append_assoc, List.cons_append]

theorem offsetFrom?_eq {size total : Nat} (n character : Nat) {above cs : List Char}
    (htotal : byteLength (above ++ cs) = total) (hfits : total < size) :
    offsetFrom? size total character n (byteLength above) cs =
      some (byteLength (above ++ (cutAt n character cs).1)) := by
  subst htotal
  induction n generalizing above cs with
  | zero =>
    -- what is in front of the column is a part of the rest
    have hpart := congrArg byteLength (cutColumn_append character cs)
    rw [byteLength_append, fst_cutColumn] at hpart
    rw [byteLength_append] at hfits
    simp only [offsetFrom?, cutAt, cutLine, List.nil_append, fst_cutColumn, byteLength_append]
    exact Word.add?_eq_some (by omega)
  | succ n ih =>
    rcases cases_lineFeed cs with hcs | ⟨line, rest, hline, rfl⟩
    · rw [offsetFrom?, dropWhile_of_notMem hcs, fst_cutAt_of_notMem hcs]
    · have hnext : byteLength above + (byteLength line + 1) =
          byteLength (above ++ (line ++ ['\n'])) := by
        rw [byteLength_append, byteLength_append]
        rfl
      have hsplit : above ++ (line ++ '\n' :: rest) = (above ++ (line ++ ['\n'])) ++ rest := by
        simp
      rw [hsplit] at hfits ⊢
      have hlong := hfits
      rw [byteLength_append, ← hnext] at hlong
      rw [offsetFrom?, takeWhile_append_cons hline, dropWhile_append_cons hline,
        fst_cutAt_lineFeed_append hline]
      simp only [Option.bind_eq_bind]
      rw [Word.add?_eq_some (by omega), Option.bind_some, Word.add?_eq_some (by omega),
        Option.bind_some, hnext, ih hfits]
      simp

/-- **The offset of a position never leaves its word**, if the length of the document is in it. -/
theorem bytesBeforeWithin?_eq {size : Nat} {text : String} (h : text.utf8ByteSize < size)
    (position : Position) :
    bytesBeforeWithin? size text position = some (bytesBefore text position) := by
  have htotal : byteLength ([] ++ text.toList) = text.utf8ByteSize := (utf8ByteSize_eq text).symm
  have hoffset := offsetFrom?_eq position.line.toNat position.character.toNat htotal h
  simp only [bytesBeforeWithin?, bytesBefore, cut, utf8ByteSize_ofList]
  exact hoffset

end Text

end Accessors
