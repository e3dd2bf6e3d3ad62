import Accessors.Json.Records
import Mathlib.Data.List.Basic

/-!
# Reading back what is written in JSON

A string that is written is read back whatever characters it has (`Quoted.read?_encode`): each of
them stands for itself or is escaped, and no escape is longer or shorter than the reader takes it to
be. Records of two strings follow member by member, and lists of records item by item, with the
space that stands between them passed over (`Property.ofJson?_listToJson`).
-/

namespace Accessors.Json

open Text

/-! ## Strings -/

namespace Quoted

theorem content?_backslash {cs : List Char} {c : Char} {length : Nat}
    (h : escape? cs = some (c, length)) :
    content? ('\\' :: cs) =
      (content? (cs.drop length)).map fun (content, rest) => (c :: content, rest) := by
  rw [content?, h]

theorem hexOfWidth?_hexPair :
    ∀ number < 0x20, hexOfWidth? 4 ('0' :: '0' :: hexPair number) = some number := by
  decide

theorem escape?_control {c : Char} (h : c.toNat < 0x20) (rest : List Char) :
    escape? ('u' :: '0' :: '0' :: (hexPair c.toNat ++ rest)) = some (c, 5) := by
  have hcode := hexOfWidth?_hexPair c.toNat h
  have hhigh : isHighHalf c.toNat = false := by
    simp only [isHighHalf, Bool.and_eq_false_imp, decide_eq_true_eq]
    omega
  have hlow : isLowHalf c.toNat = false := by
    simp only [isLowHalf, Bool.and_eq_false_imp, decide_eq_true_eq]
    omega
  have htake : ('0' :: '0' :: (hexPair c.toNat ++ rest)).take 4 = '0' :: '0' :: hexPair c.toNat :=
    rfl
  rw [escape?, coded?, htake, hcode]
  simp [hhigh, hlow, Char.ofNat_toNat]

theorem encodeChar_cases (c : Char) :
    (∃ letter, encodeChar c = ['\\', letter] ∧ ∀ rest, escape? (letter :: rest) = some (c, 1)) ∨
      (c.toNat < 0x20 ∧ encodeChar c = '\\' :: 'u' :: '0' :: '0' :: hexPair c.toNat) ∨
        (c ≠ '"' ∧ c ≠ '\\' ∧ ¬ c.toNat < 0x20 ∧ encodeChar c = [c]) := by
  rw [encodeChar]
  -- seven characters have a letter
  iterate 7
    split
    · subst_vars
      exact .inl ⟨_, rfl, fun _ => rfl⟩
  rename_i hquote hbackslash _ _ _ _ _
  split
  · rename_i hcontrol
    exact .inr (.inl ⟨hcontrol, rfl⟩)
  · rename_i hcontrol
    exact .inr (.inr ⟨hquote, hbackslash, hcontrol, rfl⟩)

theorem content?_encodeChar (c : Char) (rest : List Char) :
    content? (encodeChar c ++ rest) =
      (content? rest).map fun (content, rest) => (c :: content, rest) := by
  obtain ⟨letter, henc, hescape⟩ | ⟨hcontrol, henc⟩ | ⟨hquote, hbackslash, hcontrol, henc⟩ :=
    encodeChar_cases c
  · rw [henc]
    exact content?_backslash (hescape rest)
  · rw [henc]
    exact content?_backslash (escape?_control hcontrol rest)
  · rw [henc, List.singleton_append, content?, if_neg hcontrol]
    · exact hquote
    · exact hbackslash

theorem content?_flatMap (cs rest : List Char) :
    content? (cs.flatMap encodeChar ++ '"' :: rest) = some (cs, rest) := by
  induction cs with
  | nil => rw [List.flatMap_nil, List.nil_append, content?]
  | cons c cs ih =>
    rw [List.flatMap_cons, List.append_assoc, content?_encodeChar, ih]
    rfl

theorem toList_encode (text : String) :
    (encode text).toList = '"' :: (text.toList.flatMap encodeChar ++ ['"']) := by
  simp [encode]

theorem read?_encode (text : String) (rest : List Char) :
    read? ((encode text).toList ++ rest) = some (text, rest) := by
  rw [toList_encode, List.cons_append, List.append_assoc, List.singleton_append, read?,
    content?_flatMap]
  simp

end Quoted

/-! ## Space -/

theorem skipSpace_append {space : List Char} (h : ∀ c ∈ space, isSpace c = true)
    (cs : List Char) : skipSpace (space ++ cs) = skipSpace cs := by
  rw [skipSpace, skipSpace, List.dropWhile_append_of_pos h]

theorem skipSpace_cons {c : Char} (h : isSpace c = false) (cs : List Char) :
    skipSpace (c :: cs) = c :: cs := by
  rw [skipSpace, List.dropWhile_cons_of_neg (by simp [h])]

theorem skipSpace_encode (text : String) (rest : List Char) :
    skipSpace ((Quoted.encode text).toList ++ rest) = (Quoted.encode text).toList ++ rest := by
  rw [Quoted.toList_encode]
  exact skipSpace_cons rfl _

theorem skipSpace_value (text : String) (rest : List Char) :
    skipSpace (' ' :: ((Quoted.encode text).toList ++ rest)) =
      (Quoted.encode text).toList ++ rest := by
  have hblank : ∀ cs, skipSpace (' ' :: cs) = skipSpace cs := fun _ => rfl
  rw [hblank, skipSpace_encode]

/-! ## Records of two strings -/

section Record

variable {first second : String} {space space' : List Char}
  (hspace : ∀ c ∈ space, isSpace c = true) (hspace' : ∀ c ∈ space', isSpace c = true)

include hspace in
theorem members?_first (a : String) (rest : List Char) :
    members? first second Quoted.read? (none, none)
        (space ++ ((Quoted.encode first).toList ++
          ':' :: ' ' :: ((Quoted.encode a).toList ++ ',' :: rest))) =
      members? first second Quoted.read? (some a, none) rest := by
  have hlength : rest.length < (space ++ ((Quoted.encode first).toList ++
      ':' :: ' ' :: ((Quoted.encode a).toList ++ ',' :: rest))).length := by
    simp only [List.length_append, List.length_cons]
    omega
  rw [members?, skipSpace_append hspace, skipSpace_encode, Quoted.read?_encode]
  simp only [skipSpace_cons (c := ':') rfl, skipSpace_value, Quoted.read?_encode,
    skipSpace_cons (c := ',') rfl, hlength, Option.map_some, if_true, Option.isSome_none,
    Bool.false_eq_true, if_false]

include hspace hspace' in
theorem members?_second (hne : second ≠ first) (a b : String) (rest : List Char) :
    members? first second Quoted.read? (some a, none)
        (space ++ ((Quoted.encode second).toList ++
          ':' :: ' ' :: ((Quoted.encode b).toList ++ (space' ++ '\x7d' :: rest)))) =
      some ((some a, some b), rest) := by
  rw [members?, skipSpace_append hspace, skipSpace_encode, Quoted.read?_encode]
  simp only [skipSpace_cons (c := ':') rfl, skipSpace_value, Quoted.read?_encode,
    skipSpace_append hspace', skipSpace_cons (c := '\x7d') rfl, hne, Option.map_some,
    Option.isSome_none, Bool.false_eq_true, if_false, if_true]

end Record

/-! ## Lists -/

/-- A list is read if its items are and only space follows it. An item that is read does not start
with the closing bracket, so that the list is not taken for an empty one. -/
theorem list?_of_items? {α : Type} {item? : List Char → Option (α × List Char)} {text : String}
    {cs rest : List Char} {as : List α} (htext : text.toList = '[' :: cs)
    (hitems : items? item? cs = some (as, rest)) (hclose : ∀ cs, item? (']' :: cs) = none)
    (hend : skipSpace rest = []) : list? item? text = some as := by
  have hopen := skipSpace_cons (c := '[') rfl cs
  simp only [list?, htext, hopen]
  split
  · rename_i hread
    split at hread
    · rename_i hcs
      rw [items?, hcs, hclose] at hitems
      cases hitems
    · cases hitems.symm.trans hread
      simp [hend]
  · rename_i hread
    split at hread
    · cases hread
    · cases hitems.symm.trans hread

theorem list?_empty {α : Type} {item? : List Char → Option (α × List Char)} {text : String}
    {rest : List Char} (htext : text.toList = '[' :: ']' :: rest) (hend : skipSpace rest = []) :
    list? item? text = some [] := by
  have hopen := skipSpace_cons (c := '[') rfl (']' :: rest)
  have hclose := skipSpace_cons (c := ']') rfl rest
  simp only [list?, htext, hopen, hclose, hend]
  rfl

end Accessors.Json

namespace Accessors.Property

open Json

def item? (cs : List Char) : Option (Property × List Char) :=
  (record? "name" "type" Quoted.read? cs).map fun ((name, type), rest) => (⟨name, type⟩, rest)

theorem toList_toJson_append (p : Property) (rest : List Char) :
    p.toJson.toList ++ rest = ' ' :: ' ' :: '\x7b' :: (['\n', ' ', ' ', ' ', ' '] ++
      ((Quoted.encode "name").toList ++ ':' :: ' ' :: ((Quoted.encode p.name).toList ++
        ',' :: (['\n', ' ', ' ', ' ', ' '] ++ ((Quoted.encode "type").toList ++
          ':' :: ' ' :: ((Quoted.encode p.type).toList ++
            (['\n', ' ', ' '] ++ '\x7d' :: rest))))))) := by
  have hname : (Quoted.encode "name").toList = ['"', 'n', 'a', 'm', 'e', '"'] := by
    simp [Quoted.toList_encode, Quoted.encodeChar]
  have htype : (Quoted.encode "type").toList = ['"', 't', 'y', 'p', 'e', '"'] := by
    simp [Quoted.toList_encode, Quoted.encodeChar]
  have hjson : p.toJson = "  \x7b\n    \"name\": " ++ Quoted.encode p.name ++
      ",\n    \"type\": " ++ Quoted.encode p.type ++ "\n  \x7d" := by rfl
  simp [hjson, hname, htype]

theorem item?_toJson (p : Property) (rest : List Char) :
    item? (skipSpace (p.toJson.toList ++ rest)) = some (p, rest) := by
  have hmargin : ∀ c ∈ ['\n', ' ', ' ', ' ', ' '], isSpace c = true := List.all_eq_true.1 rfl
  have hend : ∀ c ∈ ['\n', ' ', ' '], isSpace c = true := List.all_eq_true.1 rfl
  have hbrace : ∀ cs, skipSpace (' ' :: ' ' :: '\x7b' :: cs) = '\x7b' :: cs := fun _ => rfl
  rw [toList_toJson_append, hbrace, item?, record?, members?_first hmargin,
    members?_second hmargin hend (by decide)]
  rfl

theorem items?_toJson (p : Property) (ps : List Property) (rest : List Char) :
    items? item? ('\n' :: ((",\n".intercalate ((p :: ps).map toJson)).toList ++
      '\n' :: ']' :: rest)) = some (p :: ps, rest) := by
  have hskip : ∀ cs, skipSpace ('\n' :: cs) = skipSpace cs := fun _ => rfl
  induction ps generalizing p with
  | nil =>
    have hbracket : skipSpace ('\n' :: ']' :: rest) = ']' :: rest := rfl
    rw [items?, hskip, List.map_singleton, String.intercalate_singleton, item?_toJson]
    simp only [hbracket]
  | cons q ps ih =>
    have htext : (",\n".intercalate ((p :: q :: ps).map toJson)).toList ++ '\n' :: ']' :: rest =
        p.toJson.toList ++ ',' :: '\n' ::
          ((",\n".intercalate ((q :: ps).map toJson)).toList ++ '\n' :: ']' :: rest) := by
      simp only [List.map_cons, String.intercalate_cons_cons]
      simp
    rw [htext, items?, hskip, item?_toJson]
    simp only [skipSpace_cons (c := ',') rfl, ih]
    rw [if_pos]
    · rfl
    · simp only [List.length_cons, List.length_append]
      omega

/-- **A list of properties that is written is read back**, with space behind it or without. -/
theorem ofJson?_listToJson (ps : List Property) {space : String}
    (hspace : ∀ c ∈ space.toList, isSpace c = true) :
    ofJson? (listToJson ps ++ space) = some ps := by
  have hend : skipSpace space.toList = [] := by
    have h := skipSpace_append hspace []
    rwa [List.append_nil] at h
  show list? item? (listToJson ps ++ space) = some ps
  cases ps with
  | nil =>
    have htext : (listToJson [] ++ space).toList = '[' :: ']' :: space.toList := by
      simp [listToJson]
    exact list?_empty htext hend
  | cons p ps =>
    have htext : (listToJson (p :: ps) ++ space).toList =
        '[' :: '\n' :: ((",\n".intercalate ((p :: ps).map toJson)).toList ++
          '\n' :: ']' :: space.toList) := by
      have hjson : listToJson (p :: ps) =
          "[\n" ++ ",\n".intercalate ((p :: ps).map toJson) ++ "\n]" := by rfl
      simp [hjson]
    exact list?_of_items? htext (items?_toJson p ps space.toList) (fun _ => rfl) hend

end Accessors.Property
