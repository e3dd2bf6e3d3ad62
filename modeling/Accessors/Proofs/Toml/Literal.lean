import Accessors.Proofs.Text.Decimal
import Accessors.Proofs.Text.Pieces
import Accessors.Toml.Statement
import Mathlib.Data.List.TakeWhile

/-!
# Values that are written on one line

`Spells` gives ways to write a text, a truth value or an integer, and an integer has several: with a
sign or in another base, and with its digits in groups (`Numeral`). A value that is written so is
read from the front of a text whatever the rest of the line is, be it spaces, a comment or nothing
(`value?_of_spells`). Every integer can be written (`exists_numeral`).
-/

namespace Accessors

/-! ## Digits -/

namespace Text

theorem forall_mem_of_all {p : Char → Prop} [DecidablePred p] {cs : List Char}
    (h : (cs.all fun c => decide (p c)) = true) : ∀ c ∈ cs, p c := by
  simpa using h

theorem isAlphanum_of_digit? {base : Nat} {c : Char} (h : (digit? base c).isSome) :
    c.isAlphanum = true := by
  rw [digit?] at h
  split_ifs at h with hdigit hsmall hlarge
  · have : c.isDigit = true := by simpa [Char.isDigit, Char.le_def] using hdigit
    simp [Char.isAlphanum, this]
  · have hle : c ≤ 'z' := Char.le_trans hsmall.2 (by decide)
    have hlower : c.isLower = true :=
      Bool.and_eq_true_iff.2 ⟨decide_eq_true hsmall.1, decide_eq_true hle⟩
    have halpha : c.isAlpha = true := Bool.or_eq_true_iff.2 (.inr hlower)
    simp [Char.isAlphanum, halpha]
  · have hle : c ≤ 'Z' := Char.le_trans hlarge.2 (by decide)
    have hupper : c.isUpper = true := decide_eq_true ⟨hlarge.1, hle⟩
    have halpha : c.isAlpha = true := Bool.or_eq_true_iff.2 (.inl hupper)
    simp [Char.isAlphanum, halpha]
  · cases h

theorem isSome_digit?_of_foldl {base : Nat} {cs : List Char} {start : Option Nat}
    (h : (cs.foldl (fun number? c => do return (← number?) * base + (← digit? base c))
      start).isSome) : start.isSome ∧ ∀ c ∈ cs, (digit? base c).isSome := by
  induction cs generalizing start with
  | nil => exact ⟨h, by simp⟩
  | cons c cs ih =>
    obtain ⟨hnext, hrest⟩ := ih h
    cases start with
    | none => cases hnext
    | some number =>
      refine ⟨rfl, List.forall_mem_cons.2 ⟨?_, hrest⟩⟩
      cases hdigit : digit? base c with
      | none => simp [hdigit] at hnext
      | some _ => rfl

theorem isAlphanum_of_ofDigits? {base number : Nat} {cs : List Char}
    (h : ofDigits? base cs = some number) : ∀ c ∈ cs, c.isAlphanum = true := by
  intro c hc
  have hsome : (ofDigits? base cs).isSome := by rw [h]; rfl
  exact isAlphanum_of_digit? ((isSome_digit?_of_foldl hsome).2 c hc)

end Text

namespace Toml

open Text

/-! ## Integers -/

/-- Whether a text is the digits of a number, with single underscores between some of them. -/
def Groups (base : Nat) (cs : List Char) (number : Nat) : Prop :=
  ∃ groups : List (List Char), groups ≠ [] ∧ (∀ group ∈ groups, group ≠ []) ∧
    cs = ['_'].intercalate groups ∧ ofDigits? base groups.flatten = some number

/-- Whether a text is the decimal digits of a number. They do not start with a zero, unless that is
all. -/
def Decimal (cs : List Char) (number : Nat) : Prop :=
  Groups 10 cs number ∧ (cs.head? = some '0' → cs = ['0'])

/-- The ways to write an integer. -/
inductive Numeral : List Char → Int → Prop
  | plain {cs : List Char} {number : Nat} (h : Decimal cs number) : Numeral cs number
  | plus {cs : List Char} {number : Nat} (h : Decimal cs number) : Numeral ('+' :: cs) number
  | minus {cs : List Char} {number : Nat} (h : Decimal cs number) : Numeral ('-' :: cs) (-number)
  | hexadecimal {cs : List Char} {number : Nat} (h : Groups 16 cs number) :
      Numeral ('0' :: 'x' :: cs) number
  | octal {cs : List Char} {number : Nat} (h : Groups 8 cs number) :
      Numeral ('0' :: 'o' :: cs) number
  | binary {cs : List Char} {number : Nat} (h : Groups 2 cs number) :
      Numeral ('0' :: 'b' :: cs) number

theorem decimal_toDigits (number : Nat) : Decimal (Nat.toDigits 10 number) number := by
  have hgroups : Groups 10 (Nat.toDigits 10 number) number :=
    ⟨[Nat.toDigits 10 number], by simp, by simp [Nat.toDigits_ne_nil], by simp,
      by simpa using ofDigits?_toDigits number⟩
  refine ⟨hgroups, fun hzero => ?_⟩
  by_cases hnumber : number = 0
  · subst hnumber
    rfl
  · exact absurd hzero (head?_toDigits_ne hnumber)

theorem exists_numeral (number : Int) : ∃ cs, Numeral cs number := by
  obtain ⟨n, rfl | rfl⟩ := Int.eq_nat_or_neg number
  · exact ⟨_, .plain (decimal_toDigits n)⟩
  · exact ⟨_, .minus (decimal_toDigits n)⟩

section Groups

variable {base number : Nat} {cs : List Char}

theorem Groups.isAlphanum (h : Groups base cs number) :
    ∀ c ∈ cs, c = '_' ∨ c.isAlphanum = true := by
  obtain ⟨groups, -, -, rfl, hdigits⟩ := h
  intro c hc
  exact (mem_intercalate hc).imp id (isAlphanum_of_ofDigits? hdigits c)

theorem Groups.natural?_eq (h : Groups base cs number) :
    Scalar.natural? base cs = some number := by
  obtain ⟨groups, hne, hfull, rfl, hdigits⟩ := h
  have hplain : ∀ group ∈ groups, '_' ∉ group := by
    intro group hgroup hmem
    have := isAlphanum_of_ofDigits? hdigits '_' (List.mem_flatten.2 ⟨group, hgroup, hmem⟩)
    cases this
  have hall : groups.all (!·.isEmpty) = true := by
    simpa using hfull
  rw [Scalar.natural?, pieces_intercalate hne hplain]
  simp only [hall, if_true, hdigits]

theorem Decimal.decimal?_eq (h : Decimal cs number) : Scalar.decimal? cs = some number := by
  obtain ⟨hgroups, hzero⟩ := h
  have hread := hgroups.natural?_eq
  unfold Scalar.decimal?
  split
  · have hnone : Scalar.natural? 10 ['0'] = some 0 := by decide +kernel
    exact hnone.symm.trans hread
  · cases hzero rfl
    contradiction
  · exact hread

theorem Decimal.takeSign_eq (h : Decimal cs number) : Scalar.takeSign cs = (false, cs) := by
  rw [Scalar.takeSign]
  · rintro rest rfl
    rcases h.1.isAlphanum '+' (by simp) with hc | hc <;> cases hc
  · rintro rest rfl
    rcases h.1.isAlphanum '-' (by simp) with hc | hc <;> cases hc

end Groups

theorem Scalar.integer?_of_head {cs : List Char} (h : cs.head? = some '0' → cs = ['0']) :
    Scalar.integer? cs =
      (Scalar.decimal? (Scalar.takeSign cs).2).map fun number =>
        if (Scalar.takeSign cs).1 then -Int.ofNat number else Int.ofNat number := by
  rw [Scalar.integer?]
  · intro rest hcs
    cases hcs ▸ h (by simp [hcs])
  · intro rest hcs
    cases hcs ▸ h (by simp [hcs])
  · intro rest hcs
    cases hcs ▸ h (by simp [hcs])

theorem Numeral.integer?_eq {cs : List Char} {number : Int} (h : Numeral cs number) :
    Scalar.integer? cs = some number := by
  cases h with
  | plain h => rw [Scalar.integer?_of_head h.2, h.takeSign_eq, h.decimal?_eq]; rfl
  | plus h =>
    rw [Scalar.integer?_of_head (by simp)]
    simp [Scalar.takeSign, h.decimal?_eq]
  | minus h =>
    rw [Scalar.integer?_of_head (by simp)]
    simp [Scalar.takeSign, h.decimal?_eq]
  | hexadecimal h => simp [Scalar.integer?, h.natural?_eq]
  | octal h => simp [Scalar.integer?, h.natural?_eq]
  | binary h => simp [Scalar.integer?, h.natural?_eq]

/-! ## Words -/

/-- Whether only spaces are left in front of a comment, a line break or the end of the text. -/
def AtLineEnd (cs : List Char) : Prop :=
  ∀ c, (Statement.skipSpace cs).head? = some c → c = '#' ∨ c = '\n' ∨ c = '\r'

/-- Whether a character may stand in a number or a truth value. -/
def IsWordChar (c : Char) : Prop :=
  c = '_' ∨ c = '+' ∨ c = '-' ∨ c.isAlphanum = true

instance : DecidablePred IsWordChar := fun c =>
  inferInstanceAs (Decidable (c = '_' ∨ c = '+' ∨ c = '-' ∨ c.isAlphanum = true))

theorem IsWordChar.ne_of_mem {c d : Char} (h : IsWordChar c)
    (hd : d ∈ '"' :: '\'' :: ' ' :: '\t' :: Word.ends) : c ≠ d := by
  rintro rfl
  have hsigns : ∀ d ∈ '"' :: '\'' :: ' ' :: '\t' :: Word.ends,
      d ≠ '_' ∧ d ≠ '+' ∧ d ≠ '-' ∧ d.isAlphanum = false :=
    forall_mem_of_all (by decide)
  obtain ⟨hlow, hplus, hminus, halpha⟩ := hsigns _ hd
  rcases h with h | h | h | h
  · exact hlow h
  · exact hplus h
  · exact hminus h
  · rw [halpha] at h
    cases h

theorem IsWordChar.isSpace_eq {c : Char} (h : IsWordChar c) : Word.isSpace c = false := by
  have hspace : c ≠ ' ' := h.ne_of_mem (by simp)
  have htab : c ≠ '\t' := h.ne_of_mem (by simp)
  simp [Word.isSpace, hspace, htab]

theorem IsWordChar.isInner {c : Char} (h : IsWordChar c) : Word.isInner c = true := by
  have hends : c ∉ Word.ends := fun hmem => h.ne_of_mem (by simp [hmem]) rfl
  simp [Word.isInner, h.isSpace_eq, hends]

theorem Numeral.isWordChar {cs : List Char} {number : Int} (h : Numeral cs number) :
    ∀ c ∈ cs, IsWordChar c := by
  have hgroups {base number : Nat} {cs : List Char} (h : Groups base cs number) :
      ∀ c ∈ cs, IsWordChar c := by
    intro c hc
    exact (h.isAlphanum c hc).imp id fun halpha => .inr (.inr halpha)
  have hbased {base number : Nat} {letter : Char} {cs : List Char} (h : Groups base cs number)
      (hletter : letter.isAlphanum = true) : ∀ c ∈ '0' :: letter :: cs, IsWordChar c := by
    refine List.forall_mem_cons.2 ⟨.inr (.inr (.inr rfl)), List.forall_mem_cons.2 ⟨?_, hgroups h⟩⟩
    exact .inr (.inr (.inr hletter))
  cases h with
  | plain h => exact hgroups h.1
  | plus h => exact List.forall_mem_cons.2 ⟨.inr (.inl rfl), hgroups h.1⟩
  | minus h => exact List.forall_mem_cons.2 ⟨.inr (.inr (.inl rfl)), hgroups h.1⟩
  | hexadecimal h => exact hbased h rfl
  | octal h => exact hbased h rfl
  | binary h => exact hbased h rfl

theorem AtLineEnd.head_eq {c : Char} {cs : List Char} (h : AtLineEnd (c :: cs)) :
    Word.isSpace c = true ∨ c = '#' ∨ c = '\n' ∨ c = '\r' := by
  by_cases hspace : Word.isSpace c = true
  · exact .inl hspace
  · exact .inr (h c (by simp [Statement.skipSpace, hspace]))

theorem take_append {word rest : List Char} (hword : ∀ c ∈ word, Word.isInner c = true)
    (hrest : AtLineEnd rest) : Word.take (word ++ rest) = (word, rest) := by
  have hdrop : (word ++ rest).dropWhile Word.isInner = rest := by
    rw [List.dropWhile_append_of_pos hword]
    cases rest with
    | nil => rfl
    | cons c rest =>
      refine List.dropWhile_cons_of_neg ?_
      rcases hrest.head_eq with hspace | rfl | rfl | rfl
      · simp [Word.isInner, hspace]
      all_goals decide
  have htake : (word ++ rest).takeWhile Word.isInner = word := by
    have hcut := List.takeWhile_append_dropWhile (p := Word.isInner) (l := word ++ rest)
    rw [hdrop] at hcut
    exact List.append_cancel_right hcut
  have hstop : (Statement.skipSpace rest).head?.any Word.continues = false := by
    rw [Option.any_eq_false]
    intro c hc
    rcases hrest c hc with rfl | rfl | rfl <;> decide
  unfold Word.take
  rw [htake]
  split
  · rename_i hnil
    rw [hdrop] at hnil
    rw [hnil]
  · rename_i c more hcons
    rw [hdrop] at hcons
    subst hcons
    rw [if_neg]
    intro hgoes
    obtain ⟨hspace, hmore⟩ := Bool.and_eq_true_iff.1 hgoes
    rw [Statement.skipSpace, List.dropWhile_cons_of_pos hspace] at hstop
    rw [hstop] at hmore
    cases hmore

/-! ## Values -/

/-- The ways to write a text, a truth value or an integer on one line. -/
inductive Spells : List Char → Value → Prop
  | quoted {cs : List Char} (h : ∀ c ∈ cs, Quoted.isPlain c = true ∧ c ≠ '"' ∧ c ≠ '\\') :
      Spells ('"' :: (cs ++ ['"'])) (.text (String.ofList cs))
  | literal {cs : List Char} (h : ∀ c ∈ cs, Quoted.isPlain c = true ∧ c ≠ '\'') :
      Spells ('\'' :: (cs ++ ['\''])) (.text (String.ofList cs))
  | yes : Spells ['t', 'r', 'u', 'e'] (.boolean true)
  | no : Spells ['f', 'a', 'l', 's', 'e'] (.boolean false)
  | number {cs : List Char} {number : Int} (h : Numeral cs number) : Spells cs (.integer number)

theorem basic?_append {cs : List Char}
    (h : ∀ c ∈ cs, Quoted.isPlain c = true ∧ c ≠ '"' ∧ c ≠ '\\') (rest : List Char) :
    Quoted.basic? (cs ++ '"' :: rest) = some (cs, rest) := by
  induction cs with
  | nil => simp [Quoted.basic?]
  | cons c cs ih =>
    obtain ⟨⟨hplain, hquote, hslash⟩, hcs⟩ := List.forall_mem_cons.1 h
    rw [List.cons_append, Quoted.basic?, if_pos hplain, ih hcs]
    · rfl
    · rintro rfl
      exact hquote rfl
    · rintro rfl
      exact hslash rfl

theorem literal?_append {cs : List Char} (h : ∀ c ∈ cs, Quoted.isPlain c = true ∧ c ≠ '\'')
    (rest : List Char) : Quoted.literal? (cs ++ '\'' :: rest) = some (cs, rest) := by
  induction cs with
  | nil => simp [Quoted.literal?]
  | cons c cs ih =>
    obtain ⟨⟨hplain, hquote⟩, hcs⟩ := List.forall_mem_cons.1 h
    rw [List.cons_append, Quoted.literal?, if_pos hplain, ih hcs]
    · rfl
    · rintro rfl
      exact hquote rfl

theorem Numeral.ofWord?_eq {cs : List Char} {number : Int} (h : Numeral cs number) :
    Scalar.ofWord? cs = some (.integer number) := by
  have hread := h.integer?_eq
  rw [Scalar.ofWord?, if_neg, if_neg]
  · rw [hread]
  · rintro rfl
    cases hread
  · rintro rfl
    cases hread

theorem value?_of_word {word rest : List Char} {value : Value} (hword : ∀ c ∈ word, IsWordChar c)
    (hvalue : Scalar.ofWord? word = some value) (hrest : AtLineEnd rest) :
    Statement.value? Statement.maxDepth (word ++ rest) = some (value, rest) := by
  have hread : Scalar.read? (word ++ rest) = some (value, rest) := by
    rw [Scalar.read?, take_append (fun c hc => (hword c hc).isInner) hrest]
    simp [hvalue]
  cases word with
  | nil => cases hvalue
  | cons c word =>
    have hne : ∀ d ∈ '"' :: '\'' :: ' ' :: '\t' :: Word.ends, c ≠ d :=
      fun d hd => (hword c (by simp)).ne_of_mem hd
    rw [List.cons_append] at hread ⊢
    rw [Statement.maxDepth, Statement.value?, Statement.simple?]
    · exact hread
    · rintro _ ⟨⟩
      exact hne '"' (by decide) rfl
    · rintro _ ⟨⟩
      exact hne '\'' (by decide) rfl
    · rintro _ ⟨⟩
      exact hne '[' (by decide) rfl
    · rintro _ ⟨⟩
      exact hne '\x7b' (by decide) rfl

theorem AtLineEnd.ne_quote {rest : List Char} (h : AtLineEnd rest) {quote : Char}
    (hquote : quote = '"' ∨ quote = '\'') (more : List Char) : rest ≠ quote :: more := by
  rintro rfl
  rcases hquote with rfl | rfl
  · rcases h.head_eq with h | h | h | h <;> cases h
  · rcases h.head_eq with h | h | h | h <;> cases h

theorem value?_of_spells {cs rest : List Char} {value : Value} (h : Spells cs value)
    (hrest : AtLineEnd rest) :
    Statement.value? Statement.maxDepth (cs ++ rest) = some (value, rest) := by
  -- three quotes in a row would be a quote in the text, or one behind the empty text
  cases h with
  | @quoted cs h =>
    have hread : Quoted.read? ('"' :: (cs ++ '"' :: rest)) = some (String.ofList cs, rest) := by
      rw [Quoted.read?, Quoted.readLine?, basic?_append h]
      · rfl
      · intro more hmore
        cases cs with
        | nil => exact hrest.ne_quote (.inl rfl) more (by simpa using hmore)
        | cons c cs => exact (h c (by simp)).2.1 (List.cons.inj (List.cons.inj hmore).2).1
      · intro more hmore
        cases hmore
    have htext : '"' :: (cs ++ ['"']) ++ rest = '"' :: (cs ++ '"' :: rest) := by simp
    rw [htext, Statement.maxDepth, Statement.value?, Statement.simple?, hread]
    · rfl
    · rintro _ ⟨⟩
    · rintro _ ⟨⟩
  | @literal cs h =>
    have hread : Quoted.read? ('\'' :: (cs ++ '\'' :: rest)) = some (String.ofList cs, rest) := by
      rw [Quoted.read?, Quoted.readLine?, literal?_append h]
      · rfl
      · intro more hmore
        cases hmore
      · intro more hmore
        cases cs with
        | nil => exact hrest.ne_quote (.inr rfl) more (by simpa using hmore)
        | cons c cs => exact (h c (by simp)).2 (List.cons.inj (List.cons.inj hmore).2).1
    have htext : '\'' :: (cs ++ ['\'']) ++ rest = '\'' :: (cs ++ '\'' :: rest) := by simp
    rw [htext, Statement.maxDepth, Statement.value?, Statement.simple?, hread]
    · rfl
    · rintro _ ⟨⟩
    · rintro _ ⟨⟩
  | yes => exact value?_of_word (forall_mem_of_all (by decide)) rfl hrest
  | no => exact value?_of_word (forall_mem_of_all (by decide)) rfl hrest
  | number h => exact value?_of_word h.isWordChar h.ofWord?_eq hrest

theorem Spells.exists_cons {cs : List Char} {value : Value} (h : Spells cs value) :
    ∃ c more, cs = c :: more ∧ Word.isSpace c = false := by
  cases h with
  | quoted _ => exact ⟨_, _, rfl, rfl⟩
  | literal _ => exact ⟨_, _, rfl, rfl⟩
  | yes => exact ⟨_, _, rfl, rfl⟩
  | no => exact ⟨_, _, rfl, rfl⟩
  | number h =>
    cases cs with
    | nil => cases h.integer?_eq
    | cons c cs => exact ⟨c, cs, rfl, (h.isWordChar c (by simp)).isSpace_eq⟩

end Toml

end Accessors
