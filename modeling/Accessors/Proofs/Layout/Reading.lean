import Accessors.Proofs.Layout.LineBreak

/-!
# Reading a block back

A block has seven lines for a property and an empty line between two of them (`linesOf_block`),
whatever the properties are, as long as they stand on one line each. The first of the seven lines
shows the name and the type. Its first colon is the one behind the name if the name has none of its
own (`Property.IsLegible`), so it can be read back (`ofSignature_append`), and with it the list
(`ofLines_blockLines`). Quotes, braces and parentheses need no escape for that.
-/

namespace Accessors

open Text

/-! ## Legible properties -/

/-- Whether a property is on one line and has no colon in its name. -/
structure Property.IsLegible (property : Property) : Prop extends property.IsOneLine where
  name_noColon : ':' ∉ property.name.toList

namespace Property

theorem isLegible_ofLine {line : String} (h : '\n' ∉ line.toList) : (ofLine line).IsLegible where
  toIsOneLine := isOneLine_ofLine h
  name_noColon := by
    have hsublist := (dropQuestionMark_sublist _).trans (trim_sublist (splitColon line.toList).1)
    rw [toList_name_ofLine, nameOf]
    exact fun hmem => notMem_splitColon _ (hsublist.subset hmem)

end Property

theorem Query.isLegible_of_mem_properties {query : Query} {text declaration : String}
    {property : Property} (h : property ∈ query.properties (linesOf text) declaration) :
    property.IsLegible := by
  obtain ⟨line, hline, rfl⟩ := exists_line_of_mem_properties h
  exact Property.isLegible_ofLine (notMem_of_mem_linesOf hline)

namespace Layout

variable {layout : Layout} {ps qs : List Property}

/-! ## The lines of a block -/

def memberLines (layout : Layout) (signature body : String) : List String :=
  [layout.margin ++ signature ++ " \x7b", layout.margin ++ layout.margin ++ body, layout.lastLine]

def pairLines (layout : Layout) (p : Property) : List String :=
  layout.memberLines ("public get " ++ p.name ++ "(): " ++ p.type)
      ("return this.get<" ++ p.type ++ ">('" ++ p.name ++ "');") ++
    "" :: layout.memberLines ("public set " ++ p.name ++ "(value: " ++ p.type ++ ")")
      ("this.set('" ++ p.name ++ "', value);")

def blockLines (layout : Layout) : List Property → List String
  | [] => []
  | [p] => layout.pairLines p
  | p :: q :: ps => layout.pairLines p ++ "" :: blockLines layout (q :: ps)

theorem length_blockLines (layout : Layout) (ps : List Property) :
    (layout.blockLines ps).length = 8 * ps.length - 1 := by
  fun_induction blockLines layout ps with
  | case1 => rfl
  | case2 p => rfl
  | case3 p q ps ih =>
    have hpair : (layout.pairLines p).length = 7 := rfl
    simp only [List.length_append, List.length_cons, hpair] at ih ⊢
    omega

theorem linesOf_member_append (layout : Layout) {signature body : String}
    (hsignature : '\n' ∉ signature.toList) (hbody : '\n' ∉ body.toList)
    (hlast : body.toList.getLast? = some ';') (after : String) :
    linesOf (layout.member signature body ++ ("\n" ++ after)) =
      layout.memberLines signature body ++ linesOf after := by
  have hmember : layout.member signature body ++ ("\n" ++ after) =
      (layout.margin ++ signature ++ " \x7b") ++ ("\n" ++
        ((layout.margin ++ layout.margin ++ body) ++ ("\n" ++
          (layout.lastLine ++ ("\n" ++ after))))) := by
    have hbrace : " \x7b\n" = " \x7b" ++ "\n" := rfl
    rw [member, hbrace]
    simp only [lastLine, String.append_assoc]
  have hmargin := layout.notMem_margin
  have hfirst : (layout.margin ++ signature ++ " \x7b").toList.getLast? = some '\x7b' :=
    getLast?_toList_append _ rfl
  have hsecond : (layout.margin ++ layout.margin ++ body).toList.getLast? = some ';' :=
    getLast?_toList_append _ hlast
  rw [hmember, linesOf_lineFeed_append (by simp [hmargin, hsignature]) (by rw [hfirst]; decide),
    linesOf_lineFeed_append (by simp [hmargin, hbody]) (by rw [hsecond]; decide),
    linesOf_lineFeed_append (layout.notMem_lastLine (by decide) (by decide))
      layout.getLast?_lastLine_ne]
  rfl

theorem block_cons (layout : Layout) (p : Property) (hne : ps ≠ []) :
    layout.block (p :: ps) =
      layout.getter p ++ separator ++ layout.setter p ++ separator ++ layout.block ps := by
  obtain ⟨q, rest, rfl⟩ := List.exists_cons_of_ne_nil hne
  simp only [block, fragments, String.join_cons, String.append_assoc]

theorem block_singleton (layout : Layout) (p : Property) :
    layout.block [p] = layout.getter p ++ separator ++ layout.setter p := by
  simp only [block, fragments, String.join_cons, String.join_nil, String.append_empty,
    String.append_assoc]

theorem block_append (layout : Layout) (hps : ps ≠ []) (hqs : qs ≠ []) :
    layout.block (ps ++ qs) = layout.block ps ++ separator ++ layout.block qs := by
  induction ps with
  | nil => exact absurd rfl hps
  | cons p ps ih =>
    by_cases hnil : ps = []
    · subst hnil
      rw [List.singleton_append, layout.block_cons p hqs, block_singleton]
    · have hne : ps ++ qs ≠ [] := List.append_ne_nil_of_left_ne_nil hnil qs
      rw [List.cons_append, layout.block_cons p hne, layout.block_cons p hnil, ih hnil]
      simp only [String.append_assoc]

theorem separator_append (after : String) :
    separator ++ after = "\n" ++ ("" ++ ("\n" ++ after)) := by
  have hseparator : separator = "\n" ++ ("" ++ "\n") := rfl
  rw [hseparator, String.append_assoc, String.append_assoc]

theorem linesOf_pair_append (layout : Layout) {p : Property} (h : p.IsOneLine) (after : String) :
    linesOf (layout.getter p ++ (separator ++ (layout.setter p ++ ("\n" ++ after)))) =
      layout.pairLines p ++ linesOf after := by
  have hgetter : ("return this.get<" ++ p.type ++ ">('" ++ p.name ++ "');").toList.getLast? =
      some ';' := getLast?_toList_append _ rfl
  have hsetter : ("this.set('" ++ p.name ++ "', value);").toList.getLast? = some ';' :=
    getLast?_toList_append _ rfl
  rw [separator_append, getter, linesOf_member_append layout (by simp [h.name, h.type])
      (by simp [h.name, h.type]) hgetter, linesOf_lineFeed_append (by decide) (by decide), setter,
    linesOf_member_append layout (by simp [h.name, h.type]) (by simp [h.name]) hsetter]
  simp only [pairLines, List.append_assoc, List.cons_append]

theorem linesOf_block_append (layout : Layout) (hne : ps ≠ []) (hps : ∀ p ∈ ps, p.IsOneLine)
    (after : String) :
    linesOf (layout.block ps ++ ("\n" ++ after)) = layout.blockLines ps ++ linesOf after := by
  fun_induction blockLines layout ps with
  | case1 => exact absurd rfl hne
  | case2 p =>
    rw [block_singleton, String.append_assoc, String.append_assoc,
      linesOf_pair_append layout (hps p List.mem_cons_self)]
  | case3 p q ps ih =>
    have hrest := ih (List.cons_ne_nil q ps) fun r hr => hps r (List.mem_cons_of_mem p hr)
    have hsplit : layout.block (p :: q :: ps) ++ ("\n" ++ after) =
        layout.getter p ++ (separator ++ (layout.setter p ++
          ("\n" ++ ("" ++ ("\n" ++ (layout.block (q :: ps) ++ ("\n" ++ after))))))) := by
      rw [layout.block_cons p (List.cons_ne_nil q ps), ← separator_append]
      simp only [String.append_assoc]
    rw [hsplit, linesOf_pair_append layout (hps p List.mem_cons_self),
      linesOf_lineFeed_append (by decide) (by decide), hrest, List.append_assoc, List.cons_append]

theorem linesOf_block (layout : Layout) (hps : ∀ p ∈ ps, p.IsOneLine) :
    linesOf (layout.block ps) = layout.blockLines ps := by
  by_cases hne : ps = []
  · subst hne
    exact linesOf_empty
  · -- a line feed behind the last line does not add a line
    obtain ⟨front, hfront⟩ := layout.exists_linesOf_block hne
    have hended := linesOf_block_append layout hne hps ""
    have hfeed : linesOf ("\n" ++ "") = [""] := by decide
    rw [hfront, hfeed, linesOf_empty, List.append_nil] at hended
    have hopen := hfront ""
    rw [String.append_empty, linesOf_empty] at hopen
    rw [hopen]
    exact hended

/-! ## Reading -/

/-- The property that the first line of a getter shows. -/
def ofSignature (layout : Layout) (line : String) : Property :=
  let (before, after) :=
    Property.splitColon (line.toList.drop (layout.margin ++ "public get ").toList.length)
  ⟨String.ofList before.dropLast.dropLast, String.ofList (after.drop 1).dropLast.dropLast⟩

/-- The properties whose accessors stand in these lines. -/
def ofLines (layout : Layout) : List String → List Property
  | [] => []
  | line :: lines => layout.ofSignature line :: ofLines layout (lines.drop 7)
termination_by lines => lines.length
decreasing_by
  simp only [List.length_drop, List.length_cons]
  omega

theorem ofSignature_append (layout : Layout) {p : Property} (h : ':' ∉ p.name.toList) :
    layout.ofSignature
      (layout.margin ++ ("public get " ++ p.name ++ "(): " ++ p.type) ++ " \x7b") = p := by
  have hline : (layout.margin ++ ("public get " ++ p.name ++ "(): " ++ p.type) ++
      " \x7b").toList = (layout.margin ++ "public get ").toList ++
        ((p.name.toList ++ ['(', ')']) ++ ':' :: (' ' :: p.type.toList ++ [' ', '\x7b'])) := by
    simp
  have hname : ':' ∉ p.name.toList ++ ['(', ')'] := by simp [h]
  have hbefore : (p.name.toList ++ ['(', ')']).dropLast.dropLast = p.name.toList := by
    rw [List.append_cons, List.dropLast_concat, List.dropLast_concat]
  have hafter : ((' ' :: p.type.toList ++ [' ', '\x7b']).drop 1).dropLast.dropLast =
      p.type.toList := by
    rw [List.cons_append, List.drop_succ_cons, List.drop_zero, List.append_cons,
      List.dropLast_concat, List.dropLast_concat]
  rw [ofSignature, hline, List.drop_left, Property.splitColon_append hname]
  simp only [hbefore, hafter, String.ofList_toList]

theorem ofLines_pairLines_append (layout : Layout) {p : Property} (h : ':' ∉ p.name.toList)
    (lines : List String) :
    layout.ofLines (layout.pairLines p ++ lines) = p :: layout.ofLines (lines.drop 1) := by
  rw [pairLines, memberLines, List.cons_append, List.cons_append, ofLines,
    ofSignature_append layout h]
  rfl

/-- **The lines of a block give its properties back.** -/
theorem ofLines_blockLines (layout : Layout) (hps : ∀ p ∈ ps, ':' ∉ p.name.toList) :
    layout.ofLines (layout.blockLines ps) = ps := by
  fun_induction blockLines layout ps with
  | case1 => rw [ofLines]
  | case2 p =>
    have hlast := ofLines_pairLines_append layout (hps p List.mem_cons_self) []
    rwa [List.append_nil, List.drop_nil, ofLines] at hlast
  | case3 p q ps ih =>
    have hrest := ih fun r hr => hps r (List.mem_cons_of_mem p hr)
    rw [ofLines_pairLines_append layout (hps p List.mem_cons_self), List.drop_succ_cons,
      List.drop_zero, hrest]

theorem block_inj (layout : Layout) (hps : ∀ p ∈ ps, p.IsLegible) (hqs : ∀ q ∈ qs, q.IsLegible)
    (h : layout.block ps = layout.block qs) : ps = qs := by
  have hlines : layout.blockLines ps = layout.blockLines qs := by
    rw [← linesOf_block layout fun p hp => (hps p hp).toIsOneLine,
      ← linesOf_block layout fun q hq => (hqs q hq).toIsOneLine, h]
  rw [← ofLines_blockLines layout fun p hp => (hps p hp).name_noColon, hlines,
    ofLines_blockLines layout fun q hq => (hqs q hq).name_noColon]

/-- **A block loses nothing.** No two lists of legible properties have the same block, and all that
are found in a document are legible. A block has seven lines and three fragments for each property
and one more of either between two of them, and the blocks of two lists make up that of both. -/
theorem block_keeps_properties (layout : Layout) :
    (∀ ps qs : List Property, (∀ p ∈ ps, p.IsLegible) → (∀ q ∈ qs, q.IsLegible) →
        layout.block ps = layout.block qs → ps = qs) ∧
      (∀ ps : List Property, (∀ p ∈ ps, p.IsOneLine) → ps ≠ [] →
        (linesOf (layout.block ps)).length = 8 * ps.length - 1) ∧
      (∀ ps : List Property, ps ≠ [] → (layout.fragments ps).length = 4 * ps.length - 1) ∧
      (∀ ps qs : List Property, ps ≠ [] → qs ≠ [] →
        layout.block (ps ++ qs) = layout.block ps ++ "\n\n" ++ layout.block qs) ∧
      ∀ (query : Query) (text declaration : String),
        ∀ p ∈ query.properties (linesOf text) declaration, p.IsLegible := by
  refine ⟨fun ps qs hps hqs => layout.block_inj hps hqs, fun ps hps _ => ?_,
    fun ps _ => layout.length_fragments ps, fun ps qs hps hqs => layout.block_append hps hqs,
    fun query text declaration p hp => Query.isLegible_of_mem_properties hp⟩
  rw [linesOf_block layout hps, length_blockLines]

/-- Two properties with text that looks like the end of an accessor or the start of another. -/
theorem block_keeps_properties_lookalike :
    let layout : Layout := { indent := 0 }
    let ps : List Property := [⟨"a(')", "b \x7b"⟩, ⟨"", "public get c(): d>"⟩]
    (∀ p ∈ ps, p.IsLegible) ∧ ps ≠ [] ∧
      (∀ qs : List Property, (∀ q ∈ qs, q.IsLegible) → layout.block ps = layout.block qs → ps = qs) ∧
      (linesOf (layout.block ps)).length = 15 ∧ (layout.fragments ps).length = 7 ∧
      layout.block (ps ++ ps) = layout.block ps ++ "\n\n" ++ layout.block ps := by
  obtain ⟨hinj, hlines, hfragments, happend, -⟩ := block_keeps_properties { indent := 0 }
  have hlegible : ∀ p ∈ [(⟨"a(')", "b \x7b"⟩ : Property), ⟨"", "public get c(): d>"⟩],
      p.IsLegible := by
    intro p hp
    simp only [List.mem_cons, List.not_mem_nil, or_false] at hp
    rcases hp with rfl | rfl
    · exact ⟨⟨by decide, by decide⟩, by decide⟩
    · exact ⟨⟨by decide, by decide⟩, by decide⟩
  have hne := List.cons_ne_nil (⟨"a(')", "b \x7b"⟩ : Property) [⟨"", "public get c(): d>"⟩]
  have honeLine := fun p hp => (hlegible p hp).toIsOneLine
  exact ⟨hlegible, hne, fun qs hqs => hinj _ qs hlegible hqs, hlines _ honeLine hne,
    hfragments _ hne, happend _ _ hne hne⟩

end Layout

end Accessors
