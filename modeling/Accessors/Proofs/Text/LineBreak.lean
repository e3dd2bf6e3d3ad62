import Accessors.Proofs.Text.LineCut
import Accessors.Text.LineEnding
import Mathlib.Data.List.Basic

/-!
# Line breaks

A line break is a line feed or a carriage return and a line feed, and `LineEnding.unify` writes all
of them as line feeds. Texts that agree when this is done have the same lines
(`lines_eq_of_unify_eq`) and fall apart at the same places (`LineCut.unify_congr`).

Where two texts meet, a line break can come about that neither of them has, and where a text is cut,
one can be parted (`PartsLineBreak`). No position of a document does that (`cut_not_parts`), and
elsewhere `unify` goes through an append (`unify_append`).

Two kinds of text have one line ending only: those with line feeds alone (`IsUnified`) and those in
which every line feed has its carriage return (`IsPaired`). Either stays so when text of its kind is
put in (`IsUnified.append`, `IsPaired.insert`), and `LineEnding.spread` leads from the first kind to
the second.
-/

namespace Accessors.Text

open LineEnding

/-- Whether a carriage return and its line feed stand on two sides of a cut. -/
def PartsLineBreak (before after : List Char) : Prop :=
  before.getLast? = some '\r' ∧ after.head? = some '\n'

theorem not_parts_of_getLast? {before after : List Char} (h : before.getLast? ≠ some '\r') :
    ¬ PartsLineBreak before after :=
  fun hparts => h hparts.1

theorem not_parts_of_head? {before after : List Char} (h : after.head? ≠ some '\n') :
    ¬ PartsLineBreak before after :=
  fun hparts => h hparts.2

theorem parts_append_iff {front before after : List Char} (hne : before ≠ []) :
    PartsLineBreak (front ++ before) after ↔ PartsLineBreak before after := by
  rw [PartsLineBreak, List.getLast?_append_of_ne_nil front hne, PartsLineBreak]

theorem parts_cons_iff {c : Char} {before after : List Char} (hne : before ≠ []) :
    PartsLineBreak (c :: before) after ↔ PartsLineBreak before after := by
  rw [← List.singleton_append]
  exact parts_append_iff hne

/-! ## Line breaks written as line feeds -/

namespace LineEnding

theorem unify_cons {c : Char} {cs : List Char} (hr : c = '\r' → cs.head? ≠ some '\n') :
    unify (c :: cs) = c :: unify cs := by
  rw [unify]
  rintro ds rfl rfl
  exact hr rfl rfl

theorem unify_append {cs ds : List Char} (h : ¬ PartsLineBreak cs ds) :
    unify (cs ++ ds) = unify cs ++ unify ds := by
  fun_induction unify cs with
  | case1 => rfl
  | case2 cs ih =>
    rw [List.cons_append, List.cons_append, unify, List.cons_append]
    by_cases hcs : cs = []
    · subst hcs
      rfl
    · rw [ih (by rwa [parts_cons_iff (by simp), parts_cons_iff hcs] at h)]
  | case3 c cs hpair ih =>
    by_cases hcs : cs = []
    · subst hcs
      exact unify_cons fun hc hhead => h ⟨by rw [hc]; rfl, hhead⟩
    · rw [parts_cons_iff hcs] at h
      rw [List.cons_append, unify_cons, ih h, List.cons_append]
      intro hc hhead
      obtain ⟨d, ds', rfl⟩ := List.exists_cons_of_ne_nil hcs
      obtain rfl : d = '\n' := by simpa using hhead
      exact hpair ds' hc rfl

theorem unify_of_notMem {line : List Char} (h : '\n' ∉ line) : unify line = line := by
  induction line with
  | nil => rfl
  | cons c cs ih =>
    have hcs : '\n' ∉ cs := fun hmem => h (List.mem_cons_of_mem c hmem)
    rw [unify_cons fun _ hhead => hcs (List.mem_of_mem_head? hhead), ih hcs]

theorem unify_append_lineFeed (cs ds : List Char) :
    unify (cs ++ '\n' :: ds) = unify (dropReturn cs) ++ '\n' :: unify ds := by
  by_cases hlast : cs.getLast? = some '\r'
  · obtain ⟨front, rfl⟩ := List.getLast?_eq_some_iff.1 hlast
    rw [dropReturn_concat, List.append_assoc, List.singleton_append,
      unify_append (not_parts_of_head? (by simp)), unify]
  · rw [dropReturn_of_getLast?_ne hlast, unify_append (not_parts_of_getLast? hlast),
      unify_cons fun e => absurd e (by decide)]

theorem count_unify (cs : List Char) : (unify cs).count '\n' = cs.count '\n' := by
  fun_induction unify cs with
  | case1 => rfl
  | case2 cs ih => simp [ih]
  | case3 c cs _ ih => simp [List.count_cons, ih]

theorem mem_unify_iff (cs : List Char) : '\n' ∈ unify cs ↔ '\n' ∈ cs := by
  rw [← List.count_pos_iff, count_unify, List.count_pos_iff]

/-! ## Line feeds written as line breaks -/

theorem spread_cons_lineFeed (ending : LineEnding) (cs : List Char) :
    ending.spread ('\n' :: cs) = ending.chars ++ ending.spread cs := by
  rw [spread, List.flatMap_cons, if_pos rfl, spread]

theorem spread_cons_of_ne (ending : LineEnding) {c : Char} (hc : c ≠ '\n') (cs : List Char) :
    ending.spread (c :: cs) = c :: ending.spread cs := by
  rw [spread, List.flatMap_cons, if_neg hc, spread, List.singleton_append]

theorem head?_spread_crlf_ne (cs : List Char) : (crlf.spread cs).head? ≠ some '\n' := by
  cases cs with
  | nil => simp [spread]
  | cons c cs =>
    by_cases hc : c = '\n'
    · subst hc
      rw [spread_cons_lineFeed, chars, List.cons_append, List.head?_cons]
      decide
    · rw [spread_cons_of_ne crlf hc]
      simpa using hc

theorem head?_spread_ne (ending : LineEnding) {cs : List Char} (h : cs.head? ≠ some '\n') :
    (ending.spread cs).head? ≠ some '\n' := by
  cases ending with
  | lf => rwa [spread_lf]
  | crlf => exact head?_spread_crlf_ne cs

theorem getLast?_spread (ending : LineEnding) {cs : List Char} {c : Char}
    (h : cs.getLast? = some c) (hc : c ≠ '\n') : (ending.spread cs).getLast? = some c := by
  obtain ⟨front, rfl⟩ := List.getLast?_eq_some_iff.1 h
  rw [spread_append, spread_cons_of_ne ending hc]
  exact List.getLast?_concat

theorem count_spread (ending : LineEnding) (cs : List Char) :
    (ending.spread cs).count '\n' = cs.count '\n' := by
  induction cs with
  | nil => rfl
  | cons c cs ih =>
    by_cases hc : c = '\n'
    · subst hc
      have hchars : ending.chars.count '\n' = 1 := by cases ending <;> rfl
      rw [spread_cons_lineFeed, List.count_append, hchars, ih, List.count_cons_self, Nat.add_comm]
    · rw [spread_cons_of_ne ending hc, List.count_cons_of_ne hc, ih, List.count_cons_of_ne hc]

theorem unify_spread_crlf (cs : List Char) : unify (crlf.spread cs) = cs := by
  induction cs with
  | nil => rfl
  | cons c cs ih =>
    by_cases hc : c = '\n'
    · subst hc
      rw [spread_cons_lineFeed, chars, List.cons_append, List.singleton_append, unify, ih]
    · rw [spread_cons_of_ne crlf hc, unify_cons fun _ => head?_spread_crlf_ne cs, ih]

end LineEnding

/-! ## Lines -/

theorem append_lineFeed_inj {line line' rest rest' : List Char} (h : '\n' ∉ line)
    (h' : '\n' ∉ line') (heq : line ++ '\n' :: rest = line' ++ '\n' :: rest') :
    line = line' ∧ rest = rest' := by
  induction line generalizing line' with
  | nil =>
    cases line' with
    | nil => exact ⟨rfl, (List.cons.inj heq).2⟩
    | cons d ds => exact absurd ((List.cons.inj heq).1 ▸ List.mem_cons_self) h'
  | cons c cs ih =>
    cases line' with
    | nil => exact absurd ((List.cons.inj heq).1 ▸ List.mem_cons_self) h
    | cons d ds =>
      obtain ⟨hc, htail⟩ := List.cons.inj heq
      obtain ⟨hcs, hrest⟩ := ih (fun hmem => h (List.mem_cons_of_mem c hmem))
        (fun hmem => h' (List.mem_cons_of_mem d hmem)) htail
      exact ⟨by rw [hc, hcs], hrest⟩

/-- **Texts that differ in their line endings only have the same lines.** -/
theorem lines_eq_of_unify_eq {cs ds : List Char} (h : unify cs = unify ds) :
    lines cs = lines ds := by
  -- line by line: the first line feed of the one text is that of the other, and what is in front of
  -- it differs in the carriage return of its line break only
  induction cs using induction_lines generalizing ds with
  | last line hline =>
    have hds : '\n' ∉ ds := by rwa [← mem_unify_iff, ← h, mem_unify_iff]
    rw [unify_of_notMem hline, unify_of_notMem hds] at h
    rw [h]
  | ended line rest hline ih =>
    have hmem : '\n' ∈ ds := by
      rw [← mem_unify_iff, ← h, mem_unify_iff]
      simp
    obtain hnone | ⟨line', rest', hline', rfl⟩ := cases_lineFeed ds
    · exact absurd hmem hnone
    · rw [unify_append_lineFeed, unify_append_lineFeed, unify_of_notMem (notMem_dropReturn hline),
        unify_of_notMem (notMem_dropReturn hline')] at h
      obtain ⟨hdrop, hrest⟩ :=
        append_lineFeed_inj (notMem_dropReturn hline) (notMem_dropReturn hline') h
      rw [lines_lineFeed_append hline, lines_lineFeed_append hline', hdrop, ih hrest]

theorem linesOf_eq_of_unify_eq {text text' : String}
    (h : unify text.toList = unify text'.toList) : linesOf text = linesOf text' := by
  rw [linesOf, lines_eq_of_unify_eq h, linesOf]

/-! ## Cuts -/

theorem LineCut.not_parts {n : Nat} {above below : List Char} (h : LineCut n above below) :
    ¬ PartsLineBreak above below := by
  cases h with
  | first => exact not_parts_of_getLast? (by simp)
  | behind => exact not_parts_of_getLast? (by simp)
  | past => exact not_parts_of_head? (by simp)

theorem LineCut.unify {n : Nat} {above below : List Char} (h : LineCut n above below) :
    LineCut n (unify above) (unify below) := by
  cases h with
  | first => exact .first _
  | @behind n above h =>
    have hunify : LineEnding.unify (above ++ ['\n']) =
        LineEnding.unify (dropReturn above) ++ ['\n'] := unify_append_lineFeed above []
    have hcount := count_unify (above ++ ['\n'])
    rw [hunify, count_concat_lineFeed, count_concat_lineFeed, h] at hcount
    rw [hunify]
    exact .behind _ (Nat.succ.inj hcount) _
  | past h => exact .past (by rwa [count_unify])

theorem LineCut.spread_crlf {n : Nat} {above below : List Char} (h : LineCut n above below) :
    LineCut n (crlf.spread above) (crlf.spread below) := by
  cases h with
  | first => exact .first _
  | @behind n above h =>
    have hcount : (crlf.spread above ++ ['\r']).count '\n' = n := by
      rw [List.count_append, count_spread, h]
      rfl
    rw [spread_append, show crlf.spread ['\n'] = ['\r'] ++ ['\n'] from rfl, ← List.append_assoc]
    exact .behind _ hcount _
  | past h => exact .past (by rwa [count_spread])

theorem LineCut.unify_congr {n : Nat} {above below above' below' : List Char}
    (hcut : LineCut n above below) (hcut' : LineCut n above' below')
    (h : LineEnding.unify (above ++ below) = LineEnding.unify (above' ++ below')) :
    LineEnding.unify above = LineEnding.unify above' ∧
      LineEnding.unify below = LineEnding.unify below' := by
  rw [unify_append hcut.not_parts, unify_append hcut'.not_parts] at h
  have heq := cutLine_of_lineCut hcut.unify
  rw [h, cutLine_of_lineCut hcut'.unify] at heq
  exact Prod.mk.inj heq.symm

theorem cutColumn_not_parts (n : Nat) (cs : List Char) :
    ¬ PartsLineBreak (cutColumn n cs).1 (cutColumn n cs).2 := by
  fun_induction cutColumn n cs with
  | case1 => exact not_parts_of_getLast? (by simp)
  | case2 => exact not_parts_of_getLast? (by simp)
  | case3 => exact not_parts_of_getLast? (by simp)
  | case4 n c cs hend before after hcut ih =>
    rw [hcut] at ih
    by_cases hbefore : before = []
    · subst hbefore
      have hafter : after = cs := by simpa [hcut] using cutColumn_append n cs
      rintro ⟨hc, hfeed⟩
      obtain rfl : c = '\r' := by simpa using hc
      obtain ⟨ds, rfl⟩ := List.head?_eq_some_iff.1 (hafter ▸ hfeed)
      exact hend rfl
    · rwa [parts_cons_iff hbefore]

/-- **No position of a document parts a line break.** -/
theorem cut_not_parts (text : String) (position : Position) :
    ¬ PartsLineBreak (cut text position).1.toList (cut text position).2.toList := by
  have hline := (lineCut_cutLine position.line.toNat text.toList).not_parts
  have hcolumn := cutColumn_not_parts position.character.toNat
    (cutLine position.line.toNat text.toList).2
  have hrest := cutColumn_append position.character.toNat
    (cutLine position.line.toNat text.toList).2
  simp only [cut, cutAt, String.toList_ofList]
  -- at the start of a line the column is zero, and the line decides
  by_cases hbefore : (cutColumn position.character.toNat
      (cutLine position.line.toNat text.toList).2).1 = []
  · rw [hbefore, List.nil_append] at hrest
    rwa [hbefore, List.append_nil, hrest]
  · rwa [parts_append_iff hbefore]

/-! ## Texts with one line ending -/

/-- Whether all line breaks of a text are line feeds alone. -/
def IsUnified (cs : List Char) : Prop :=
  unify cs = cs

theorem isUnified_of_notMem {line : List Char} (h : '\n' ∉ line) : IsUnified line :=
  unify_of_notMem h

theorem isUnified_of_notMem_return {cs : List Char} (h : '\r' ∉ cs) : IsUnified cs := by
  induction cs with
  | nil => rfl
  | cons c cs ih =>
    have hc : c ≠ '\r' := fun e => h (e ▸ List.mem_cons_self)
    rw [IsUnified, unify_cons fun e => absurd e hc, ih fun hmem => h (List.mem_cons_of_mem c hmem)]

theorem IsUnified.append {cs ds : List Char} (hcs : IsUnified cs) (hds : IsUnified ds)
    (h : ¬ PartsLineBreak cs ds) : IsUnified (cs ++ ds) := by
  rw [IsUnified, unify_append h, hcs, hds]

theorem IsUnified.lineFeed {cs ds : List Char} (hcs : IsUnified cs)
    (hlast : cs.getLast? ≠ some '\r') (hds : IsUnified ds) : IsUnified (cs ++ '\n' :: ds) := by
  rw [IsUnified, unify_append_lineFeed, dropReturn_of_getLast?_ne hlast, hcs, hds]

theorem LineCut.isUnified {n : Nat} {above below : List Char} (hcut : LineCut n above below)
    (h : IsUnified (above ++ below)) : IsUnified above ∧ IsUnified below := by
  have heq := cutLine_of_lineCut hcut.unify
  rw [← unify_append hcut.not_parts, h, cutLine_of_lineCut hcut] at heq
  obtain ⟨habove, hbelow⟩ := Prod.mk.inj heq
  exact ⟨habove.symm, hbelow.symm⟩

theorem isUnified_join {pieces : List String}
    (h : ∀ piece ∈ pieces, IsUnified piece.toList ∧ piece.toList.getLast? ≠ some '\r') :
    IsUnified (String.join pieces).toList := by
  induction pieces with
  | nil => rfl
  | cons piece pieces ih =>
    obtain ⟨hpiece, hlast⟩ := h piece List.mem_cons_self
    rw [String.join_cons, String.toList_append]
    exact hpiece.append (ih fun p hp => h p (List.mem_cons_of_mem piece hp))
      (not_parts_of_getLast? hlast)

theorem toList_convert (ending : LineEnding) {text : String} (h : IsUnified text.toList) :
    (ending.convert text).toList = ending.spread text.toList := by
  rw [convert, String.toList_ofList, h]

theorem toList_join_convert (ending : LineEnding) {pieces : List String}
    (h : ∀ piece ∈ pieces, IsUnified piece.toList) :
    (String.join (pieces.map ending.convert)).toList =
      ending.spread (String.join pieces).toList := by
  induction pieces with
  | nil => rfl
  | cons piece pieces ih =>
    have hpiece := toList_convert ending (h piece List.mem_cons_self)
    have hpieces := ih fun p hp => h p (List.mem_cons_of_mem piece hp)
    rw [List.map_cons, String.join_cons, String.toList_append, hpiece, hpieces, String.join_cons,
      String.toList_append, spread_append]

theorem unify_spread (ending : LineEnding) {cs : List Char} (h : IsUnified cs) :
    unify (ending.spread cs) = cs := by
  cases ending with
  | lf => rw [spread_lf, h]
  | crlf => exact unify_spread_crlf cs

theorem ofChars_of_isUnified {cs : List Char} (h : IsUnified cs) : ofChars cs = lf := by
  fun_induction ofChars cs with
  | case1 => rfl
  | case2 => rfl
  | case3 cs => simp [IsUnified, unify] at h
  | case4 c cs _ hpair ih =>
    refine ih ?_
    rw [IsUnified, unify_cons] at h
    · exact (List.cons.inj h).2
    · intro hc hhead
      obtain ⟨ds, rfl⟩ := List.head?_eq_some_iff.1 hhead
      exact hpair ds hc rfl

/-- Whether every line feed of a text stands behind a carriage return. -/
def IsPaired (cs : List Char) : Prop :=
  ∀ above below, cs = above ++ '\n' :: below → above.getLast? = some '\r'

theorem isPaired_of_notMem {cs : List Char} (h : '\n' ∉ cs) : IsPaired cs := by
  rintro above below rfl
  exact absurd (by simp) h

theorem isPaired_lineBreak : IsPaired crlf.chars := by
  intro above below heq
  rcases above with _ | ⟨c, _ | ⟨d, above⟩⟩
  · exact absurd (List.cons.inj heq).1 (by decide)
  · rw [← (List.cons.inj heq).1]
    rfl
  · simp [chars] at heq

theorem IsPaired.append {cs ds : List Char} (hcs : IsPaired cs) (hds : IsPaired ds) :
    IsPaired (cs ++ ds) := by
  intro above below heq
  obtain ⟨rest, rfl, hrest⟩ | ⟨rest, rfl, hrest⟩ := List.append_eq_append_iff.1 heq
  · rw [List.getLast?_append, hds rest below hrest]
    rfl
  · cases rest with
    | nil => exact absurd (hds [] below hrest.symm) (by simp)
    | cons c rest =>
      obtain ⟨rfl, -⟩ := List.cons.inj hrest
      exact hcs above rest rfl

theorem IsPaired.left {cs ds : List Char} (h : IsPaired (cs ++ ds)) : IsPaired cs := by
  rintro above below rfl
  exact h above (below ++ ds) (by simp)

theorem IsPaired.right {cs ds : List Char} (h : IsPaired (cs ++ ds))
    (hparts : ¬ PartsLineBreak cs ds) : IsPaired ds := by
  rintro above below rfl
  have hlast := h (cs ++ above) below (by simp)
  by_cases habove : above = []
  · subst habove
    rw [List.append_nil] at hlast
    exact absurd ⟨hlast, rfl⟩ hparts
  · rwa [List.getLast?_append_of_ne_nil cs habove] at hlast

/-- **Paired text may be put into paired text**, but not within a line break. -/
theorem IsPaired.insert {before middle after : List Char} (h : IsPaired (before ++ after))
    (hparts : ¬ PartsLineBreak before after) (hmiddle : IsPaired middle) :
    IsPaired (before ++ middle ++ after) :=
  (h.left.append hmiddle).append (h.right hparts)

theorem isPaired_spread_crlf (cs : List Char) : IsPaired (crlf.spread cs) := by
  induction cs with
  | nil => exact isPaired_of_notMem (by simp [spread])
  | cons c cs ih =>
    by_cases hc : c = '\n'
    · subst hc
      rw [spread_cons_lineFeed]
      exact isPaired_lineBreak.append ih
    · rw [spread_cons_of_ne crlf hc, ← List.singleton_append]
      exact (isPaired_of_notMem (by simpa using Ne.symm hc)).append ih

theorem isPaired_join {pieces : List String} (h : ∀ piece ∈ pieces, IsPaired piece.toList) :
    IsPaired (String.join pieces).toList := by
  induction pieces with
  | nil => exact isPaired_of_notMem (by simp)
  | cons piece pieces ih =>
    rw [String.join_cons, String.toList_append]
    exact (h piece List.mem_cons_self).append (ih fun p hp => h p (List.mem_cons_of_mem piece hp))

/-- **Whatever is converted for a document with line breaks of two characters is paired.** -/
theorem isPaired_join_convert (pieces : List String) :
    IsPaired (String.join (pieces.map crlf.convert)).toList := by
  refine isPaired_join fun piece hpiece => ?_
  obtain ⟨text, -, rfl⟩ := List.mem_map.1 hpiece
  rw [convert, String.toList_ofList]
  exact isPaired_spread_crlf _

theorem ofChars_of_isPaired {cs : List Char} (h : IsPaired cs) (hmem : '\n' ∈ cs) :
    ofChars cs = crlf := by
  fun_induction ofChars cs with
  | case1 => simp at hmem
  | case2 cs => exact absurd (h [] cs rfl) (by simp)
  | case3 => rfl
  | case4 c cs hc hpair ih =>
    have hcs : '\n' ∈ cs := by
      rcases List.mem_cons.1 hmem with rfl | hcs
      · exact (hc rfl).elim
      · exact hcs
    have happend : IsPaired ([c] ++ cs) := h
    refine ih (happend.right ?_) hcs
    rintro ⟨hlast, hhead⟩
    obtain ⟨ds, rfl⟩ := List.head?_eq_some_iff.1 hhead
    exact hpair ds (by simpa using hlast) rfl

end Accessors.Text
