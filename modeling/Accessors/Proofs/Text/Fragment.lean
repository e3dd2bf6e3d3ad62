import Accessors.Proofs.Text.LineBreak

/-!
# Text that comes in fragments

`LineEnding.unify` goes through a text once, and fragments are converted one at a time. Two things
come of that. Where a carriage return stands in front of a line break, it meets the line feed that
the break becomes (`isUnified_unify_iff`), and so it does at the end of a fragment if a line feed
comes next: `isUnified_join_convert_iff` says when fragments and the text behind them have no line
break of two characters.

And a line break that two fragments share is none to either of them. What fragments are converted to
depends on the text they make up and on which of its line breaks are cut, and on nothing else
(`join_convert_eq_iff`). The induction is on the text, one character at a time, and `Peeled` says
what taking the first character off does to the fragments.
-/

namespace Accessors.Text

open LineEnding

/-! ## Line breaks of two characters -/

theorem pair_isPrefix_iff {c : Char} {cs : List Char} :
    ['\r', '\n'] <+: c :: cs ↔ c = '\r' ∧ cs.head? = some '\n' := by
  rw [List.cons_prefix_cons, eq_comm]
  cases cs <;> simp [eq_comm]

theorem isUnified_iff {cs : List Char} : IsUnified cs ↔ ¬ ['\r', '\n'] <:+: cs := by
  induction cs with
  | nil => simp [IsUnified, unify]
  | cons c cs ih =>
    rw [List.infix_cons_iff, not_or, ← ih]
    by_cases hpair : ['\r', '\n'] <+: c :: cs
    · refine iff_of_false ?_ fun h => h.1 hpair
      obtain ⟨rest, hrest⟩ := hpair
      rw [← hrest]
      simp [IsUnified, unify]
    · have hunify : unify (c :: cs) = c :: unify cs :=
        unify_cons fun hc hhead => hpair (pair_isPrefix_iff.2 ⟨hc, hhead⟩)
      rw [IsUnified, hunify]
      simp [hpair, IsUnified]

theorem isUnified_append_iff {cs ds : List Char} :
    IsUnified (cs ++ ds) ↔ IsUnified cs ∧ IsUnified ds ∧ ¬ PartsLineBreak cs ds := by
  constructor
  · intro h
    rw [isUnified_iff] at h
    refine ⟨isUnified_iff.2 fun hcs => h (hcs.trans (List.prefix_append cs ds).isInfix),
      isUnified_iff.2 fun hds => h (hds.trans (List.suffix_append cs ds).isInfix), ?_⟩
    rintro ⟨hlast, hhead⟩
    obtain ⟨front, rfl⟩ := List.getLast?_eq_some_iff.1 hlast
    obtain ⟨rest, rfl⟩ := List.head?_eq_some_iff.1 hhead
    exact h ⟨front, rest, by simp⟩
  · rintro ⟨hcs, hds, h⟩
    exact hcs.append hds h

theorem getLast?_unify (cs : List Char) : (unify cs).getLast? = cs.getLast? := by
  fun_induction unify cs with
  | case1 => rfl
  | case2 cs ih => simp [List.getLast?_cons, ih]
  | case3 c cs _ ih => simp [List.getLast?_cons, ih]

theorem head?_unify_iff (cs : List Char) :
    (unify cs).head? = some '\n' ↔ cs.head? = some '\n' ∨ ['\r', '\n'] <+: cs := by
  cases cs with
  | nil => simp [unify]
  | cons c cs =>
    rw [pair_isPrefix_iff]
    by_cases hpair : c = '\r' ∧ cs.head? = some '\n'
    · obtain ⟨rfl, hhead⟩ := hpair
      obtain ⟨ds, rfl⟩ := List.head?_eq_some_iff.1 hhead
      simp [unify]
    · rw [unify_cons fun hc hhead => hpair ⟨hc, hhead⟩]
      simp [hpair]

/-- **One pass leaves a line break of two characters** exactly where two carriage returns stand in
front of a line feed. -/
theorem isUnified_unify_iff {cs : List Char} :
    IsUnified (unify cs) ↔ ¬ ['\r', '\r', '\n'] <:+: cs := by
  fun_induction unify cs with
  | case1 => simp [IsUnified, unify]
  | case2 cs ih =>
    rw [← List.singleton_append, isUnified_append_iff, ih]
    simp [List.infix_cons_iff, List.cons_prefix_cons, isUnified_of_notMem_return, PartsLineBreak]
  | case3 c cs hpair ih =>
    have hhead : c = '\r' → cs.head? ≠ some '\n' := by
      intro hc hhead
      obtain ⟨ds, rfl⟩ := List.head?_eq_some_iff.1 hhead
      exact hpair ds hc rfl
    have hparts : PartsLineBreak [c] (unify cs) ↔ c = '\r' ∧ ['\r', '\n'] <+: cs := by
      rw [PartsLineBreak, head?_unify_iff]
      simp only [List.getLast?_singleton, Option.some.injEq]
      exact and_congr_right fun hc => or_iff_right (hhead hc)
    have hsingle : IsUnified [c] := by
      rw [IsUnified, unify_cons (by simp)]
      rfl
    rw [← List.singleton_append, isUnified_append_iff, ih, hparts, List.infix_cons_iff,
      List.cons_prefix_cons, not_or, eq_comm (a := '\r')]
    exact ⟨fun h => ⟨h.2.2, h.2.1⟩, fun h => ⟨hsingle, h.2, h.1⟩⟩

theorem isUnified_join_convert_iff {fragments : List String} {after : List Char} :
    IsUnified ((String.join (fragments.map lf.convert)).toList ++ after) ↔
      IsUnified after ∧ (∀ fragment ∈ fragments, ¬ ['\r', '\r', '\n'] <:+: fragment.toList) ∧
        ∀ done fragment left, fragments = done ++ fragment :: left →
          ¬ PartsLineBreak fragment.toList
            ((String.join (left.map lf.convert)).toList ++ after) := by
  induction fragments with
  | nil => simp
  | cons fragment fragments ih =>
    have hconvert : (lf.convert fragment).toList = unify fragment.toList := by
      rw [convert, String.toList_ofList, spread_lf]
    have hparts : ∀ rest, PartsLineBreak (unify fragment.toList) rest ↔
        PartsLineBreak fragment.toList rest := by
      intro rest
      rw [PartsLineBreak, getLast?_unify, PartsLineBreak]
    rw [List.map_cons, String.join_cons, String.toList_append, List.append_assoc, hconvert,
      isUnified_append_iff, isUnified_unify_iff, ih, hparts, List.forall_mem_cons]
    constructor
    · rintro ⟨hfragment, ⟨hafter, hrest, hleft⟩, hhere⟩
      refine ⟨hafter, ⟨hfragment, hrest⟩, ?_⟩
      rintro (_ | ⟨first, done⟩) fragment' left heq
      · obtain ⟨rfl, rfl⟩ := List.cons.inj heq
        exact hhere
      · exact hleft done fragment' left (List.cons.inj heq).2
    · rintro ⟨hafter, ⟨hfragment, hrest⟩, hall⟩
      refine ⟨hfragment, ⟨hafter, hrest, ?_⟩, hall [] fragment fragments rfl⟩
      intro done fragment' left heq
      exact hall (fragment :: done) fragment' left (by rw [heq]; rfl)

/-! ## Ways of cutting a text -/

/-- Whether fragments are cut behind a text that they start with. -/
def CutBehind (fragments : List (List Char)) (front : List Char) : Prop :=
  ∃ done, done <+: fragments ∧ done.flatten = front

/-- Whether two ways of cutting a text into fragments cut the same of its line breaks. -/
def SameBreaksCut (fragments others : List (List Char)) (text : List Char) : Prop :=
  ∀ front below, text = front ++ '\r' :: '\n' :: below →
    (CutBehind fragments (front ++ ['\r']) ↔ CutBehind others (front ++ ['\r']))

theorem cutBehind_nil_cons {fragments : List (List Char)} {front : List Char} :
    CutBehind ([] :: fragments) front ↔ CutBehind fragments front := by
  constructor
  · rintro ⟨done, hdone, rfl⟩
    rcases done with _ | ⟨first, done⟩
    · exact ⟨[], List.nil_prefix, rfl⟩
    · obtain ⟨rfl, htail⟩ := List.cons_prefix_cons.1 hdone
      exact ⟨done, htail, by simp⟩
  · rintro ⟨done, hdone, rfl⟩
    exact ⟨[] :: done, List.cons_prefix_cons.2 ⟨rfl, hdone⟩, by simp⟩

theorem cutBehind_cons_cons {c : Char} {fragment : List Char} {left : List (List Char)}
    {front : List Char} (hne : front ≠ []) :
    CutBehind ((c :: fragment) :: left) (c :: front) ↔ CutBehind (fragment :: left) front := by
  constructor
  · rintro ⟨done, hdone, heq⟩
    rcases done with _ | ⟨first, done⟩
    · exact absurd heq (by simp)
    · obtain ⟨rfl, htail⟩ := List.cons_prefix_cons.1 hdone
      refine ⟨fragment :: done, List.cons_prefix_cons.2 ⟨rfl, htail⟩, ?_⟩
      simpa using heq
  · rintro ⟨done, hdone, heq⟩
    rcases done with _ | ⟨first, done⟩
    · exact absurd heq.symm hne
    · obtain ⟨rfl, htail⟩ := List.cons_prefix_cons.1 hdone
      refine ⟨(c :: first) :: done, List.cons_prefix_cons.2 ⟨rfl, htail⟩, ?_⟩
      simpa using heq

/-- What taking the first character off does to fragments: the cuts further on stay, and the
character stays as it is unless it is the carriage return of a line break that is not cut. -/
structure Peeled (c : Char) (rest : List Char) (fragments left : List (List Char)) : Prop where
  flatten : left.flatten = rest
  cut_iff : ∀ front, front ≠ [] → (CutBehind fragments (c :: front) ↔ CutBehind left front)
  kept : (c = '\r' → rest.head? = some '\n' → CutBehind fragments [c]) →
    fragments.flatMap unify = c :: left.flatMap unify
  merged : c = '\r' → rest.head? = some '\n' → ¬ CutBehind fragments [c] →
    fragments.flatMap unify = left.flatMap unify

theorem exists_peeled {c : Char} {rest : List Char} {fragments : List (List Char)}
    (h : fragments.flatten = c :: rest) : ∃ left, Peeled c rest fragments left := by
  induction fragments with
  | nil => simp at h
  | cons fragment fragments ih =>
    cases fragment with
    | nil =>
      obtain ⟨left, hleft⟩ := ih (by simpa using h)
      refine ⟨left, hleft.flatten, fun front hne => ?_, fun hcut => ?_, fun hc hhead hcut => ?_⟩
      · rw [cutBehind_nil_cons, hleft.cut_iff front hne]
      · have hkept := hleft.kept fun hc hhead => cutBehind_nil_cons.1 (hcut hc hhead)
        simpa [unify] using hkept
      · have hmerged := hleft.merged hc hhead fun hc => hcut (cutBehind_nil_cons.2 hc)
        simpa [unify] using hmerged
    | cons d fragment =>
      obtain ⟨rfl, hrest⟩ : d = c ∧ fragment ++ fragments.flatten = rest := by simpa using h
      -- the character is in its fragment with the line feed exactly if no cut is between them
      have hnil : fragment = [] → CutBehind ((d :: fragment) :: fragments) [d] := by
        rintro rfl
        exact ⟨[[d]], List.cons_prefix_cons.2 ⟨rfl, List.nil_prefix⟩, rfl⟩
      refine ⟨fragment :: fragments, hrest, fun front hne => cutBehind_cons_cons hne,
        fun hcut => ?_, fun hc hhead hcut => ?_⟩
      · have hunify : unify (d :: fragment) = d :: unify fragment := by
          refine unify_cons fun hd hfeed => ?_
          obtain ⟨fragment, rfl⟩ := List.head?_eq_some_iff.1 hfeed
          obtain ⟨done, hdone, heq⟩ := hcut hd (by rw [← hrest]; rfl)
          rcases done with _ | ⟨first, done⟩
          · simp at heq
          · obtain ⟨rfl, -⟩ := List.cons_prefix_cons.1 hdone
            simp at heq
        rw [List.flatMap_cons, hunify, List.flatMap_cons, List.cons_append]
      · obtain ⟨e, fragment, rfl⟩ :=
          List.exists_cons_of_ne_nil fun hfragment => hcut (hnil hfragment)
        obtain rfl : e = '\n' := by simpa [← hrest] using hhead
        subst hc
        rw [List.flatMap_cons, unify, List.flatMap_cons, unify_cons (by simp)]

theorem sameBreaksCut_cons_iff {c : Char} {rest : List Char}
    {fragments others left left' : List (List Char)} (h : Peeled c rest fragments left)
    (h' : Peeled c rest others left') :
    SameBreaksCut fragments others (c :: rest) ↔
      (c = '\r' → rest.head? = some '\n' → (CutBehind fragments [c] ↔ CutBehind others [c])) ∧
        SameBreaksCut left left' rest := by
  constructor
  · intro hsame
    refine ⟨fun hc hhead => ?_, fun front below heq => ?_⟩
    · obtain ⟨below, rfl⟩ := List.head?_eq_some_iff.1 hhead
      subst hc
      exact hsame [] below rfl
    · rw [← h.cut_iff _ (by simp), ← h'.cut_iff _ (by simp)]
      exact hsame (c :: front) below (by rw [heq]; rfl)
  · rintro ⟨hfirst, hrest⟩ front below heq
    rcases front with _ | ⟨d, front⟩
    · obtain ⟨rfl, rfl⟩ := List.cons.inj heq
      exact hfirst rfl rfl
    · obtain ⟨rfl, htail⟩ := List.cons.inj heq
      rw [List.cons_append, h.cut_iff _ (by simp), h'.cut_iff _ (by simp)]
      exact hrest front below htail

theorem flatMap_unify_of_flatten_eq_nil {fragments : List (List Char)}
    (h : fragments.flatten = []) : fragments.flatMap unify = [] := by
  rw [List.flatten_eq_nil_iff] at h
  rw [List.flatMap_eq_nil_iff]
  intro fragment hfragment
  rw [h fragment hfragment, unify]

theorem head?_flatMap_unify {fragments : List (List Char)} {rest : List Char}
    (h : fragments.flatten = '\n' :: rest) :
    (fragments.flatMap unify).head? = some '\n' := by
  obtain ⟨left, hleft⟩ := exists_peeled h
  rw [hleft.kept fun hc => absurd hc (by decide), List.head?_cons]

theorem flatMap_unify_eq_iff {fragments others : List (List Char)} {text : List Char}
    (h : fragments.flatten = text) (h' : others.flatten = text) :
    fragments.flatMap unify = others.flatMap unify ↔ SameBreaksCut fragments others text := by
  induction text generalizing fragments others with
  | nil =>
    rw [flatMap_unify_of_flatten_eq_nil h, flatMap_unify_of_flatten_eq_nil h']
    refine iff_of_true rfl fun front below heq => ?_
    simp at heq
  | cons c rest ih =>
    obtain ⟨left, hleft⟩ := exists_peeled h
    obtain ⟨left', hleft'⟩ := exists_peeled h'
    rw [sameBreaksCut_cons_iff hleft hleft', ← ih hleft.flatten hleft'.flatten]
    by_cases hbreak : c = '\r' ∧ rest.head? = some '\n'
    · obtain ⟨hc, hhead⟩ := hbreak
      obtain ⟨below, hbelow⟩ := List.head?_eq_some_iff.1 hhead
      have hfeed : (left.flatMap unify).head? = some '\n' :=
        head?_flatMap_unify (hleft.flatten.trans hbelow)
      have hfeed' : (left'.flatMap unify).head? = some '\n' :=
        head?_flatMap_unify (hleft'.flatten.trans hbelow)
      -- cut in one way only, the line break starts with its return there and with its feed here
      by_cases hcut : CutBehind fragments [c] <;> by_cases hcut' : CutBehind others [c]
      · rw [hleft.kept fun _ _ => hcut, hleft'.kept fun _ _ => hcut']
        simp [hcut, hcut']
      · rw [hleft.kept fun _ _ => hcut, hleft'.merged hc hhead hcut']
        refine iff_of_false (fun heq => ?_) fun hsame => hcut' ((hsame.1 hc hhead).1 hcut)
        rw [← heq, List.head?_cons, hc] at hfeed'
        simp at hfeed'
      · rw [hleft.merged hc hhead hcut, hleft'.kept fun _ _ => hcut']
        refine iff_of_false (fun heq => ?_) fun hsame => hcut ((hsame.1 hc hhead).2 hcut')
        rw [heq, List.head?_cons, hc] at hfeed
        simp at hfeed
      · rw [hleft.merged hc hhead hcut, hleft'.merged hc hhead hcut']
        simp [hcut, hcut']
    · have hnot : c = '\r' → rest.head? = some '\n' → False := fun hc hhead => hbreak ⟨hc, hhead⟩
      rw [hleft.kept fun hc hhead => (hnot hc hhead).elim,
        hleft'.kept fun hc hhead => (hnot hc hhead).elim, List.cons.injEq]
      exact ⟨fun hrest => ⟨fun hc hhead => (hnot hc hhead).elim, hrest.2⟩,
        fun hsame => ⟨rfl, hsame.2⟩⟩

/-! ## Converted fragments -/

theorem toList_join_map_convert (ending : LineEnding) (fragments : List String) :
    (String.join (fragments.map ending.convert)).toList =
      ending.spread ((fragments.map String.toList).flatMap unify) := by
  induction fragments with
  | nil => rfl
  | cons fragment fragments ih =>
    rw [List.map_cons, String.join_cons, String.toList_append, ih, List.map_cons, List.flatMap_cons,
      spread_append, convert, String.toList_ofList]

theorem spread_inj (ending : LineEnding) {cs ds : List Char} :
    ending.spread cs = ending.spread ds ↔ cs = ds := by
  refine ⟨fun h => ?_, fun h => by rw [h]⟩
  cases ending with
  | lf => rwa [spread_lf, spread_lf] at h
  | crlf => rw [← unify_spread_crlf cs, h, unify_spread_crlf]

/-- **Fragments that make up the same text are converted to the same** exactly if they cut the same
of its line breaks. -/
theorem join_convert_eq_iff (ending : LineEnding) {fragments others : List String}
    (h : String.join fragments = String.join others) :
    String.join (fragments.map ending.convert) = String.join (others.map ending.convert) ↔
      SameBreaksCut (fragments.map String.toList) (others.map String.toList)
        (String.join fragments).toList := by
  have hflatten : ∀ pieces : List String,
      (pieces.map String.toList).flatten = (String.join pieces).toList := by
    intro pieces
    rw [String.toList_join, List.flatMap_def]
  rw [← String.toList_inj, toList_join_map_convert, toList_join_map_convert, spread_inj]
  exact flatMap_unify_eq_iff (hflatten fragments) ((hflatten others).trans (by rw [h]))

end Accessors.Text
