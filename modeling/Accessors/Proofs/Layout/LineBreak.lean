import Accessors.Proofs.Declaration.OneLine
import Accessors.Proofs.Layout
import Accessors.Proofs.Text.LineBreak

/-!
# Line breaks in a block

The accessors of properties that are on one line have line feeds of the layout only, and none of
these stands behind a carriage return: the lines of a member end in a brace or a semicolon
(`isUnified_member`). So the fragments have no line break of two characters
(`isUnified_of_mem_fragments`), whatever stray carriage returns the properties have, and no line
break comes about where a block meets the text around it (`unify_between`).
-/

namespace Accessors.Layout

open Text

variable {layout : Layout} {ps : List Property}

/-! ## Members -/

theorem getLast?_toList_append (front : String) {tail : String} {c : Char}
    (h : tail.toList.getLast? = some c) : (front ++ tail).toList.getLast? = some c := by
  rw [String.toList_append, List.getLast?_append, h]
  rfl

theorem notMem_margin (layout : Layout) : '\n' ∉ layout.margin.toList := by
  simp [margin]

theorem toList_member (layout : Layout) (signature body : String) :
    (layout.member signature body).toList =
      (layout.margin.toList ++ signature.toList ++ [' ', '\x7b']) ++
        '\n' :: ((layout.margin.toList ++ layout.margin.toList ++ body.toList) ++
          '\n' :: layout.lastLine.toList) := by
  simp [member, lastLine]

theorem isUnified_member {signature body : String} (hsignature : '\n' ∉ signature.toList)
    (hbody : '\n' ∉ body.toList) (hlast : body.toList.getLast? = some ';') :
    IsUnified (layout.member signature body).toList := by
  have hmargin := layout.notMem_margin
  have hfirst : '\n' ∉ layout.margin.toList ++ signature.toList ++ [' ', '\x7b'] := by
    simp [hmargin, hsignature]
  have hsecond : '\n' ∉ layout.margin.toList ++ layout.margin.toList ++ body.toList := by
    simp [hmargin, hbody]
  have hthird : '\n' ∉ layout.lastLine.toList := layout.notMem_lastLine (by decide) (by decide)
  rw [toList_member]
  refine (isUnified_of_notMem hfirst).lineFeed (by simp) ?_
  refine (isUnified_of_notMem hsecond).lineFeed ?_ (isUnified_of_notMem hthird)
  rw [List.getLast?_append, hlast]
  simp

theorem getLast?_member_ne (layout : Layout) (signature body : String) :
    (layout.member signature body).toList.getLast? ≠ some '\r' := by
  obtain ⟨front, hfront⟩ := layout.exists_member_eq signature body
  rw [hfront, String.toList_append, toList_lastLine, ← List.append_assoc, List.getLast?_concat]
  decide

theorem head?_member_ne (layout : Layout) {signature : String} (body : String)
    (h : signature.toList.head? ≠ some '\n') :
    (layout.member signature body).toList.head? ≠ some '\n' := by
  rw [toList_member, margin, String.toList_ofList, List.append_assoc, List.append_assoc]
  cases layout.indent with
  | zero =>
    cases hsignature : signature.toList with
    | nil => simp
    | cons c cs => simpa [hsignature] using h
  | succ n => simp [List.replicate_succ]

/-! ## Fragments -/

theorem isUnified_getter {p : Property} (h : p.IsOneLine) :
    IsUnified (layout.getter p).toList := by
  have hlast : ("return this.get<" ++ p.type ++ ">('" ++ p.name ++ "');").toList.getLast? =
      some ';' := getLast?_toList_append _ rfl
  exact isUnified_member (by simp [h.name, h.type]) (by simp [h.name, h.type]) hlast

theorem isUnified_setter {p : Property} (h : p.IsOneLine) :
    IsUnified (layout.setter p).toList := by
  have hlast : ("this.set('" ++ p.name ++ "', value);").toList.getLast? = some ';' :=
    getLast?_toList_append _ rfl
  exact isUnified_member (by simp [h.name, h.type]) (by simp [h.name]) hlast

theorem mem_fragments {fragment : String} (h : fragment ∈ layout.fragments ps) :
    fragment = separator ∨ ∃ p ∈ ps, fragment = layout.getter p ∨ fragment = layout.setter p := by
  fun_induction fragments layout ps with
  | case1 => simp at h
  | case2 p =>
    simp only [List.mem_cons, List.not_mem_nil, or_false] at h
    rcases h with rfl | rfl | rfl
    · exact .inr ⟨p, List.mem_cons_self, .inl rfl⟩
    · exact .inl rfl
    · exact .inr ⟨p, List.mem_cons_self, .inr rfl⟩
  | case3 p q ps ih =>
    simp only [List.mem_cons] at h ih
    rcases h with rfl | rfl | rfl | rfl | h
    · exact .inr ⟨p, List.mem_cons_self, .inl rfl⟩
    · exact .inl rfl
    · exact .inr ⟨p, List.mem_cons_self, .inr rfl⟩
    · exact .inl rfl
    · rcases ih h with heq | ⟨r, hr, heq⟩
      · exact .inl heq
      · exact .inr ⟨r, by simp [hr], heq⟩

theorem isUnified_of_mem_fragments (hps : ∀ p ∈ ps, p.IsOneLine) {fragment : String}
    (h : fragment ∈ layout.fragments ps) :
    IsUnified fragment.toList ∧ fragment.toList.getLast? ≠ some '\r' := by
  rcases mem_fragments h with rfl | ⟨p, hp, rfl | rfl⟩
  · exact ⟨rfl, by decide⟩
  · exact ⟨isUnified_getter (hps p hp), layout.getLast?_member_ne _ _⟩
  · exact ⟨isUnified_setter (hps p hp), layout.getLast?_member_ne _ _⟩

/-! ## Blocks -/

theorem isUnified_block (hps : ∀ p ∈ ps, p.IsOneLine) : IsUnified (layout.block ps).toList :=
  isUnified_join fun _ hfragment => isUnified_of_mem_fragments hps hfragment

theorem head?_block_ne (layout : Layout) (hne : ps ≠ []) :
    (layout.block ps).toList.head? ≠ some '\n' := by
  obtain ⟨p, rest, rfl⟩ := List.exists_cons_of_ne_nil hne
  obtain ⟨fragments, hfragments⟩ : ∃ fragments,
      layout.fragments (p :: rest) = layout.getter p :: fragments := by
    cases rest <;> exact ⟨_, rfl⟩
  have hgetter : (layout.getter p).toList.head? ≠ some '\n' :=
    layout.head?_member_ne _ (by simp)
  rw [block, hfragments, String.join_cons, String.toList_append, List.head?_append]
  cases hhead : (layout.getter p).toList.head? with
  | none => simp [getter, toList_member] at hhead
  | some c => rwa [hhead] at hgetter

theorem unify_between (layout : Layout) (hne : ps ≠ [])
    (hps : ∀ p ∈ ps, p.IsOneLine) (ending : LineEnding) (above below : List Char) :
    LineEnding.unify (above ++ ending.spread (layout.block ps).toList ++ below) =
      LineEnding.unify above ++ (layout.block ps).toList ++ LineEnding.unify below := by
  have hhead := LineEnding.head?_spread_ne ending (layout.head?_block_ne hne)
  have hlast := LineEnding.getLast?_spread ending (layout.getLast?_block hne) (by decide)
  have hbelow : ¬ PartsLineBreak (above ++ ending.spread (layout.block ps).toList) below := by
    refine not_parts_of_getLast? ?_
    rw [List.getLast?_append, hlast]
    simp
  rw [LineEnding.unify_append hbelow, LineEnding.unify_append (not_parts_of_head? hhead),
    unify_spread ending (isUnified_block hps)]

theorem unify_between_lf (layout : Layout) (hne : ps ≠ [])
    (hps : ∀ p ∈ ps, p.IsOneLine) (above below : List Char) :
    LineEnding.unify (above ++ (layout.block ps).toList ++ below) =
      LineEnding.unify above ++ (layout.block ps).toList ++ LineEnding.unify below := by
  have h := layout.unify_between hne hps .lf above below
  rwa [LineEnding.spread_lf] at h

theorem toList_block_convert (hps : ∀ p ∈ ps, p.IsOneLine) (ending : LineEnding) :
    (String.join ((layout.fragments ps).map ending.convert)).toList =
      ending.spread (layout.block ps).toList :=
  toList_join_convert ending fun _ hfragment => (isUnified_of_mem_fragments hps hfragment).1

end Accessors.Layout
