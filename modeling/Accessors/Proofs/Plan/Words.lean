import Accessors.Proofs.Declaration.Block
import Accessors.Proofs.Editor.Ledger
import Accessors.Proofs.Plan.Notices
import Accessors.Proofs.Text.Insertion
import Accessors.Proofs.Text.Offset

/-!
# Runs within words

A run and an edit of a file count lines, fragments and bytes. Here they are done with the operations
of `Word`, which have no result where a number leaves its word: `Plan.runWithin?` is the run, and
`FileDesk.insertWithin?` is the edit. Lengths have words of their own, of any size; if the document
fits into them, then so does all that is counted of it, and these come to the same as the run and
the edit.

Lines of an editor are numbered in 32 bits. The log counts them from one, and the last line has no
such number: `runWithin?_eq_some_iff` says that this is the only way for a run to leave a word. It
takes a log that the notice goes to, and the run stops there before it makes its edit. So a run has
stopped exactly if its notices cannot be logged (`canLog_run_iff`).
-/

namespace Accessors

open Text

variable {size : Nat}

/-! ## Fields -/

namespace Property

/-- The texts in front of the first colon and behind it, cut out by their offsets. -/
def splitColonWithin? (size : Nat) (cs : List Char) : Option (List Char × List Char) :=
  match cs.dropWhile (· ≠ ':') with
  | [] => some ([], cs)
  | _ :: _ => do
    let colon := byteLength (cs.takeWhile (· ≠ ':'))
    let (before, _) ← cutBytes? colon cs
    let behind ← Word.add? size colon 1
    let after ← dropBytes? behind cs
    return (before, after)

def ofLineWithin? (size : Nat) (line : String) : Option Property := do
  let (before, after) ← splitColonWithin? size line.toList
  return ⟨String.ofList (nameOf before), String.ofList (typeOf after)⟩

theorem splitColonWithin?_eq {cs : List Char} (h : byteLength cs < size) :
    splitColonWithin? size cs = some (splitColon cs) := by
  by_cases hcolon : ':' ∈ cs
  · obtain ⟨before, after, rfl, hbefore⟩ := List.eq_append_cons_of_mem hcolon
    have hbehind : byteLength (before ++ [':']) = byteLength before + 1 := byteLength_append ..
    have hcut := cutBytes?_append (before ++ [':']) after
    rw [← List.append_cons, hbehind] at hcut
    have hdrop : dropBytes? (byteLength before + 1) (before ++ ':' :: after) = some after := by
      rw [dropBytes?, hcut]
      rfl
    have hfits : byteLength before + 1 < size := by
      rw [List.append_cons, byteLength_append, hbehind] at h
      omega
    rw [splitColonWithin?, dropWhile_append_cons hbefore, takeWhile_append_cons hbefore,
      splitColon_append hbefore]
    simp only [cutBytes?_append, Word.add?_eq_some hfits, hdrop, Option.bind_eq_bind,
      Option.bind_some, Option.pure_def]
  · rw [splitColonWithin?, splitColon, dropWhile_of_notMem hcolon]

theorem ofLineWithin?_eq {line : String} (h : line.utf8ByteSize < size) :
    ofLineWithin? size line = some (ofLine line) := by
  rw [utf8ByteSize_eq] at h
  rw [ofLineWithin?, splitColonWithin?_eq h]
  rfl

end Property

/-! ## Looking for properties -/

/-- Whether there is room for the lines of a document: each of them, and a list of them, which has
at least four bytes for every line. -/
structure FitsLines (size : Nat) (lines : List String) : Prop where
  list : lines.length * 4 < size
  line : ∀ line ∈ lines, line.utf8ByteSize < size

namespace Query

def fieldsWithin? (size : Nat) (query : Query) (lines : List String) : Option (List Property) :=
  ((lines.takeWhile (!isClosing ·)).filter query.isField).mapM (Property.ofLineWithin? size)

theorem mapM_eq_some_map {α β : Type} {f : α → Option β} {g : α → β} {as : List α}
    (h : ∀ a ∈ as, f a = some (g a)) : as.mapM f = some (as.map g) := by
  induction as with
  | nil => rfl
  | cons a as ih =>
    obtain ⟨ha, has⟩ := List.forall_mem_cons.1 h
    rw [List.mapM_cons, ha, ih has]
    rfl

theorem fieldsWithin?_eq (query : Query) {lines : List String}
    (h : ∀ line ∈ lines, line.utf8ByteSize < size) :
    query.fieldsWithin? size lines = some (query.fields lines) := by
  refine mapM_eq_some_map fun line hline => Property.ofLineWithin?_eq (h line ?_)
  exact (List.takeWhile_sublist _).mem (List.mem_of_mem_filter hline)

theorem locate?_eq_findIdx? (interface : String) (lines : List String) :
    locate? interface lines = (lines.findIdx? (Declaration.Header.occursIn interface)).map
      fun index => (index, lines.drop (index + 1)) := by
  induction lines with
  | nil => rfl
  | cons line rest ih =>
    rw [locate?, List.findIdx?_cons]
    split
    · rfl
    · rw [ih, Option.map_map, Option.map_map]
      rfl

theorem length_properties_le (query : Query) (lines : List String) (declaration : String) :
    (query.properties lines declaration).length ≤ lines.length := by
  rw [properties]
  split
  · exact Nat.zero_le _
  · rename_i index body hlocate
    obtain ⟨before, header, rfl, -, -, -⟩ := locate?_eq_some_iff.1 hlocate
    have hbody : (query.fields body).length ≤ body.length := by
      rw [fields, List.length_map]
      exact (List.filter_sublist.trans (List.takeWhile_sublist _)).length_le
    simp only [List.length_append, List.length_cons]
    omega

end Query

/-! ## Fragments -/

namespace Layout

/-- The fragments of the properties from number `index` on, of `count` in all. The last ones have
no separator behind them. -/
def fragmentsFrom? (layout : Layout) (count : Nat) : Nat → List Property → Option (List String)
  | _, [] => some []
  | index, p :: ps => do
    let last ← Word.sub? count 1
    let behind := if index < last then [separator] else []
    let rest ← fragmentsFrom? layout count (index + 1) ps
    return layout.getter p :: separator :: layout.setter p :: (behind ++ rest)

def fragmentsWithin? (size : Nat) (layout : Layout) (ps : List Property) :
    Option (List String) := do
  let _room ← Word.mul? size ps.length 4
  layout.fragmentsFrom? ps.length 0 ps

theorem fragmentsFrom?_eq (layout : Layout) (index : Nat) (ps : List Property) :
    layout.fragmentsFrom? (index + ps.length) index ps = some (layout.fragments ps) := by
  fun_induction layout.fragments ps generalizing index with
  | case1 => rfl
  | case2 p =>
    rw [fragmentsFrom?, List.length_singleton, Word.sub?_eq_some (Nat.le_add_left 1 index)]
    simp [fragmentsFrom?]
  | case3 p q ps ih =>
    have hcount : index + (p :: q :: ps).length = index + 1 + (q :: ps).length := by
      simp only [List.length_cons]
      omega
    have hlast : index < index + 1 + (q :: ps).length - 1 := by
      rw [List.length_cons]
      omega
    rw [fragmentsFrom?, hcount, ih, Word.sub?_eq_some (by omega)]
    simp only [Option.bind_eq_bind, Option.bind_some, if_pos hlast]
    rfl

theorem fragmentsWithin?_eq (layout : Layout) {ps : List Property} (h : ps.length * 4 < size) :
    layout.fragmentsWithin? size ps = some (layout.fragments ps) := by
  have hfragments := layout.fragmentsFrom?_eq 0 ps
  rw [Nat.zero_add] at hfragments
  rw [fragmentsWithin?, Word.mul?_eq_some h, hfragments]
  rfl

end Layout

/-! ## Runs -/

namespace Plan

variable {σ : Type} [Editor σ]

/-- The properties of a declaration, and what looking for it reports. -/
def searchWithin? (size : Nat) (plan : Plan) (lines : List String) (declaration : String) :
    Option (List Property × Log.Notice) :=
  let interface := plan.query.interface declaration
  match lines.findIdx? (Declaration.Header.occursIn interface) with
  | none => some ([], .noDeclaration interface lines.length)
  | some index => do
    let number ← Word.add? size index 1
    let ps ← plan.query.fieldsWithin? size (lines.drop number)
    return (ps, .found interface number)

/-- What is reported ahead of an edit. The number of the line is worked out if it is logged. -/
def announceWithin? (log : Log.Filter) (fragments : Nat) (line : UInt32) : Option Log.Notice :=
  let notice := .inserting fragments line
  if log.passes notice then (Word.add? UInt32.size line.toNat 1).map fun _ => notice
  else some notice

def insertWithin? (log : Log.Filter) (size : Nat) (plan : Plan) (editor : σ) (declaration : String)
    (ps : List Property) (line : UInt32) : Option (Response σ Outcome) := do
  let position := Position.startOf line
  let fragments ← plan.layout.fragmentsWithin? size ps
  let notice ← announceWithin? log fragments.length line
  let response := Editor.insert editor position fragments
  let inserting := notice :: response.notices
  return match response.result with
    | .error error => { response with result := .error error, notices := inserting }
    | .ok () =>
      { response with
        result := .ok (.inserted declaration ps.length position)
        notices := inserting ++ [.generated ps.length (plan.query.interface declaration)] }

def runOnWithin? (log : Log.Filter) (size : Nat) (plan : Plan) (editor : σ) (declaration : String)
    (ps : List Property) : Option (Response σ Outcome) :=
  match Editor.cursor? editor with
  | none => some { result := .ok .noDocument, editor, notices := [.noCursor] }
  | some cursor =>
    if ps.isEmpty then
      some
        { result := .ok (.noProperties declaration)
          editor
          notices := [.noProperties (plan.query.interface declaration)] }
    else
      plan.insertWithin? log size editor declaration ps cursor.line

/-- The run of a plan under a log. It stops where a number leaves its word, and what comes after that
is not done. -/
def runWithin? (log : Log.Filter) (size : Nat) (plan : Plan) (editor : σ) :
    Option (Response σ Outcome) :=
  match plan.subject? editor with
  | none => some { result := .ok .noDocument, editor, notices := [.noDocument] }
  | some (lines, declaration) =>
    if Declaration.Header.isCompilable (plan.query.interface declaration) then do
      let (ps, notice) ← plan.searchWithin? size lines declaration
      let response ← plan.runOnWithin? log size editor declaration ps
      return { response with notices := notice :: response.notices }
    else
      some { result := .error Declaration.Header.sizeError, editor }

/-- Whether there is something to put in at the last line that an editor can have, which is the
last number of 32 bits if lines are counted from zero, and a log is to say so. -/
def LogsLastLine (log : Log.Filter) (plan : Plan) (editor : σ) : Prop :=
  ∃ declaration ps cursor, plan.Finds editor declaration ps cursor ∧ ps ≠ [] ∧
    log.passes (.inserting (plan.layout.fragments ps).length cursor.line) = true ∧
    cursor.line.toNat + 1 = UInt32.size

theorem searchWithin?_eq (plan : Plan) {lines : List String} (h : FitsLines size lines)
    (declaration : String) :
    plan.searchWithin? size lines declaration =
      some (plan.query.properties lines declaration, plan.searchNotice lines declaration) := by
  simp only [searchWithin?, Query.properties, searchNotice, Query.locate?_eq_findIdx?]
  cases hindex : lines.findIdx?
      (Declaration.Header.occursIn (plan.query.interface declaration)) with
  | none => rfl
  | some index =>
    have hlt : index < lines.length := by
      obtain ⟨hlt, -⟩ := List.findIdx?_eq_some_iff_getElem.1 hindex
      exact hlt
    have hlist := h.list
    have hbody : ∀ line ∈ lines.drop (index + 1), line.utf8ByteSize < size :=
      fun line hline => h.line line (List.mem_of_mem_drop hline)
    simp only [Word.add?_eq_some (show index + 1 < size by omega),
      plan.query.fieldsWithin?_eq hbody, Option.map_some, Option.bind_eq_bind, Option.bind_some,
      Option.pure_def]

theorem announceWithin?_eq (log : Log.Filter) (fragments : Nat) (line : UInt32) :
    announceWithin? log fragments line =
      if log.passes (.inserting fragments line) = true ∧ line.toNat + 1 = UInt32.size then none
      else some (.inserting fragments line) := by
  rw [announceWithin?]
  by_cases hlog : log.passes (.inserting fragments line) = true
  · rw [if_pos hlog]
    by_cases hlast : line.toNat + 1 = UInt32.size
    · rw [if_pos ⟨hlog, hlast⟩, Word.add?_eq_none (Nat.le_of_eq hlast.symm)]
      rfl
    · have hline : line.toNat + 1 < UInt32.size :=
        Nat.lt_of_le_of_ne line.toNat_lt_size hlast
      rw [if_neg fun h => hlast h.2, Word.add?_eq_some hline]
      rfl
  · rw [if_neg hlog, if_neg fun h => hlog h.1]

theorem insertWithin?_eq (log : Log.Filter) (plan : Plan) (editor : σ) (declaration : String)
    {ps : List Property} (h : ps.length * 4 < size) (line : UInt32) :
    plan.insertWithin? log size editor declaration ps line =
      if log.passes (.inserting (plan.layout.fragments ps).length line) = true ∧
          line.toNat + 1 = UInt32.size then none
      else some (plan.insert editor declaration ps line) := by
  rw [insertWithin?, plan.layout.fragmentsWithin?_eq h]
  simp only [Option.bind_eq_bind, Option.bind_some, announceWithin?_eq]
  split
  · rfl
  · rfl

theorem runOnWithin?_cases (log : Log.Filter) (plan : Plan) (editor : σ) (declaration : String)
    {ps : List Property} (h : ps.length * 4 < size) :
    (plan.runOnWithin? log size editor declaration ps = some (plan.runOn editor declaration ps) ∧
        ∀ cursor, Editor.cursor? editor = some cursor → ps ≠ [] →
          ¬ (log.passes (.inserting (plan.layout.fragments ps).length cursor.line) = true ∧
            cursor.line.toNat + 1 = UInt32.size)) ∨
      plan.runOnWithin? log size editor declaration ps = none ∧
        ∃ cursor, Editor.cursor? editor = some cursor ∧ ps ≠ [] ∧
          log.passes (.inserting (plan.layout.fragments ps).length cursor.line) = true ∧
          cursor.line.toNat + 1 = UInt32.size := by
  rw [runOnWithin?, runOn]
  cases hcursor : Editor.cursor? editor with
  | none => exact .inl ⟨rfl, by simp⟩
  | some cursor =>
    by_cases hps : ps = []
    · subst hps
      exact .inl ⟨rfl, by simp⟩
    simp only [List.isEmpty_eq_false_iff.2 hps, Bool.false_eq_true, if_false,
      plan.insertWithin?_eq log editor declaration h]
    split
    · rename_i hstops
      exact .inr ⟨rfl, cursor, rfl, hps, hstops⟩
    · rename_i hgoes
      refine .inl ⟨rfl, fun other hother _ => ?_⟩
      obtain rfl := Option.some.inj hother
      exact hgoes

theorem runWithin?_cases (log : Log.Filter) (plan : Plan) {editor : σ}
    (h : ∀ lines, Editor.lines? editor = some lines → FitsLines size lines) :
    plan.runWithin? log size editor = some (plan.run editor) ∧ ¬ plan.LogsLastLine log editor ∨
      plan.runWithin? log size editor = none ∧ plan.LogsLastLine log editor := by
  cases hsubject : plan.subject? editor with
  | none =>
    have hps : plan.properties? editor = .ok none := by rw [properties?, hsubject]
    refine .inl ⟨by rw [runWithin?, hsubject, run, hps], ?_⟩
    rintro ⟨declaration, ps, cursor, hfinds, -⟩
    cases hps.symm.trans (finds_iff.1 hfinds).1
  | some subject =>
    obtain ⟨lines, declaration⟩ := subject
    by_cases hcompiles :
        Declaration.Header.isCompilable (plan.query.interface declaration) = true
    · have hlines := (subject?_eq_some_iff.1 hsubject).1
      have hextract : plan.query.extract lines declaration =
          .ok (plan.query.properties lines declaration) :=
        Query.extract_eq_ok_iff.2 ⟨hcompiles, rfl⟩
      have hps : plan.properties? editor =
          .ok (some (declaration, plan.query.properties lines declaration)) :=
        properties?_eq_ok_some_iff.2 ⟨lines, hsubject, hextract⟩
      have hroom : (plan.query.properties lines declaration).length * 4 < size := by
        have hlist := (h lines hlines).list
        have hlength := plan.query.length_properties_le lines declaration
        omega
      rw [runWithin?, hsubject, run, hps, searchNotices, hsubject]
      simp only [if_pos hcompiles, plan.searchWithin?_eq (h lines hlines), Option.bind_eq_bind,
        Option.bind_some]
      rcases plan.runOnWithin?_cases log editor declaration hroom with
        ⟨hrun, hgoes⟩ | ⟨hrun, cursor, hcursor, hne, hstops⟩
      · refine .inl ⟨by rw [hrun]; rfl, ?_⟩
        rintro ⟨declaration', ps, cursor, hfinds, hne, hstops⟩
        obtain ⟨hps', hcursor⟩ := finds_iff.1 hfinds
        obtain ⟨-, rfl⟩ := Prod.mk.inj (Option.some.inj (Except.ok.inj (hps.symm.trans hps')))
        exact hgoes cursor hcursor hne hstops
      · refine .inr ⟨by rw [hrun]; rfl, declaration, _, cursor, ?_, hne, hstops⟩
        exact finds_iff.2 ⟨hps, hcursor⟩
    · have hextract : plan.query.extract lines declaration =
          .error Declaration.Header.sizeError :=
        Query.extract_eq_error_iff.2 ⟨Bool.eq_false_iff.2 hcompiles, rfl⟩
      have hps : plan.properties? editor = .error Declaration.Header.sizeError := by
        rw [properties?, hsubject]
        exact map_eq_error_iff.2 hextract
      refine .inl ⟨by simp only [runWithin?, hsubject, if_neg hcompiles, run, hps], ?_⟩
      rintro ⟨_, _, _, hfinds, -⟩
      exact (fails_iff.2 hps).not_finds hfinds

/-- **A run under a log stops exactly if one of its notices cannot be logged**, for an editor whose
own notices can be put into words. -/
theorem canLog_run_iff (log : Log.Filter) (plan : Plan) {editor : σ}
    (hown : ∀ edit : Edit, ∀ notice ∈ (edit.perform editor).notices, notice.hasText = true) :
    log.canLog (plan.run editor).notices = true ↔ ¬ plan.LogsLastLine log editor := by
  rw [Log.Filter.canLog_iff]
  constructor
  · rintro hlogs ⟨declaration, ps, cursor, hfinds, hne, hpasses, hlast⟩
    obtain ⟨rest, hnotices⟩ := notices_run_of_finds hfinds hne
    have htext := hlogs _ (by rw [hnotices]; simp) hpasses
    simp [Log.Notice.hasText, hlast] at htext
  · intro hnot notice hmem hpasses
    cases reports_run hmem with
    | inserting hfinds hne =>
      refine decide_eq_true (Nat.lt_of_le_of_ne (UInt32.toNat_lt_size _) fun hlast => ?_)
      exact hnot ⟨_, _, _, hfinds, hne, hpasses, hlast⟩
    | edited h => exact hown _ _ h
    | _ => rfl

end Plan

/-! ## Files -/

namespace FileDesk

/-- Puts fragments into the open file at the byte offset of a position, and saves it. -/
def insertWithin? (size : Nat) (desk : FileDesk) (position : Position)
    (fragments : List String) : Option (Response FileDesk Unit) := do
  let file := desk.file
  let converted := fragments.map file.ending.convert
  let offset ← bytesBeforeWithin? size file.text position
  let inserted ← Word.sum? size (converted.map String.utf8ByteSize)
  let _room ← Word.add? size file.text.utf8ByteSize inserted
  let (before, after) ← cutBytes? offset file.text.toList
  let text := String.ofList before ++ String.join converted ++ String.ofList after
  match desk.tree.save file.target text.toUTF8 with
  | (.error fault, tree) =>
    return { result := .error (.file fault), editor := { file, tree } }
  | (.ok (), tree) =>
    let written ← Word.sub? text.utf8ByteSize file.text.utf8ByteSize
    return {
      result := .ok ()
      editor := { file := { file with text }, tree }
      notices := [.wrote written (tree.display file.target)] }

theorem insertWithin?_eq (desk : FileDesk) (h : desk.file.text.utf8ByteSize < size)
    (position : Position) (fragments : List String) :
    desk.insertWithin? size position fragments =
      if (desk.file.updated position fragments).utf8ByteSize < size then
        some (desk.insert position fragments)
      else none := by
  have hsize := utf8ByteSize_insertAt desk.file.text position
    (fragments.map desk.file.ending.convert)
  have hupdated : String.ofList (cut desk.file.text position).1.toList ++
      String.join (fragments.map desk.file.ending.convert) ++
        String.ofList (cut desk.file.text position).2.toList =
      desk.file.updated position fragments := by
    rw [String.ofList_toList, String.ofList_toList]
    rfl
  rw [← OpenFile.updated] at hsize
  simp only [insertWithin?, bytesBeforeWithin?_eq h, Option.bind_eq_bind, Option.bind_some,
    Word.sum?_eq (Nat.zero_lt_of_lt h)]
  rcases Nat.lt_or_ge (desk.file.updated position fragments).utf8ByteSize size with hfits | hfits
  · rw [if_pos hfits, if_pos (by omega), Option.bind_some, Word.add?_eq_some (by omega),
      Option.bind_some, cutBytes?_bytesBefore, Option.bind_some]
    simp only [hupdated]
    rw [insert, Word.sub?_eq_some (by omega)]
    rcases desk.tree.save desk.file.target (desk.file.updated position fragments).toUTF8 with
      ⟨_ | _, tree⟩
    · rfl
    · rfl
  · rw [if_neg (Nat.not_lt.2 hfits)]
    split
    · rw [Option.bind_some, Word.add?_eq_none (by omega)]
      rfl
    · rfl

end FileDesk

/-! ## What can leave its word -/

/-- **Only the number of a line in the log can leave its word**, and only for the last line. In all
else that is counted, a run stays in its words if they have room for the lines of the document, and
an edit of a file does if they have room for what is written. A run that is to log the last line
stops before it makes its edit. Otherwise the line in the log is the line with the cursor, counted
from one. -/
theorem Plan.runWithin?_eq_some_iff {σ : Type} [Editor σ] (log : Log.Filter) (plan : Plan)
    (editor : σ) (h : ∀ lines, Editor.lines? editor = some lines → FitsLines size lines) :
    (plan.runWithin? log size editor = some (plan.run editor) ↔
        ¬ plan.LogsLastLine log editor) ∧
      (plan.runWithin? log size editor = none ↔ plan.LogsLastLine log editor) ∧
      (∀ declaration ps cursor, plan.Finds editor declaration ps cursor → ps ≠ [] →
        ∃ notice rest, (plan.run editor).notices = plan.searchNotices editor ++ notice :: rest ∧
          notice.text = "Inserting " ++ toString (plan.layout.fragments ps).length ++
            " fragments at line " ++ toString (cursor.line.toNat + 1) ∧
          (plan.LogsLastLine log editor ↔
            log.passes notice = true ∧ cursor.line.toNat + 1 = UInt32.size)) ∧
      ∀ (desk : FileDesk) (position : Position) (fragments : List String),
        desk.file.text.utf8ByteSize < size →
        (desk.insertWithin? size position fragments = some (desk.insert position fragments) ↔
          (desk.file.updated position fragments).utf8ByteSize < size) := by
  refine ⟨?_, ?_, ?_, ?_⟩
  · rcases plan.runWithin?_cases log h with ⟨hrun, hline⟩ | ⟨hrun, hline⟩
    · exact iff_of_true hrun hline
    · exact iff_of_false (by simp [hrun]) (not_not_intro hline)
  · rcases plan.runWithin?_cases log h with ⟨hrun, hline⟩ | ⟨hrun, hline⟩
    · exact iff_of_false (by simp [hrun]) hline
    · exact iff_of_true hrun hline
  · intro declaration ps cursor hfinds hne
    obtain ⟨rest, hnotices⟩ := notices_run_of_finds hfinds hne
    refine ⟨_, rest, hnotices, rfl, ?_, fun hlast => ⟨_, _, _, hfinds, hne, hlast⟩⟩
    rintro ⟨_, _, _, hfinds', -, hlast⟩
    obtain ⟨-, rfl, rfl⟩ := hfinds.unique hfinds'
    exact hlast
  · intro desk position fragments hdesk
    rw [desk.insertWithin?_eq hdesk]
    split
    · rename_i hfits
      exact iff_of_true rfl hfits
    · rename_i hfits
      exact iff_of_false (by simp) hfits

/-- The document of `nameless` under a name, with the cursor on a line. -/
def Plan.editorOn (line : UInt32) : Recorder :=
  { nameless with fileName := some "Foo.ts", cursor := some ⟨line, 0⟩ }

theorem Plan.fitsLines_editorOn (line : UInt32) :
    ∀ lines, Editor.lines? (editorOn line) = some lines → FitsLines UInt64.size lines := by
  intro lines hlines
  cases hlines
  exact ⟨by decide, by decide⟩

/-- A log of everything down to details. -/
def Plan.fullLog : Log.Filter :=
  [{ threshold := Log.Level.debug.rank }]

theorem Plan.runWithin?_eq_some_iff_editorOn :
    let editor := editorOn 4294967294
    let desk := FileDesk.fooDesk FileDesk.crlfDocument .crlf
    (∀ lines, Editor.lines? editor = some lines → FitsLines UInt64.size lines) ∧
      Plan.runWithin? fullLog UInt64.size {} editor = some (Plan.run {} editor) ∧
      (∃ notice rest, (Plan.run {} editor).notices = .found "IFooData" 1 :: notice :: rest ∧
        notice.text = "Inserting 3 fragments at line 4294967295") ∧
      desk.insertWithin? UInt64.size ⟨1, 99⟩ [" // a\nb"] =
        some (desk.insert ⟨1, 99⟩ [" // a\nb"]) := by
  have hlines := fitsLines_editorOn 4294967294
  have hfinds : Finds {} (editorOn 4294967294) "Foo" [⟨"id", "number"⟩] ⟨4294967294, 0⟩ :=
    ⟨_, _, rfl, rfl, rfl, rfl, Query.extract_eq_ok_iff.2 ⟨by decide, by decide⟩⟩
  obtain ⟨hrun, -, hnotices, hdesk⟩ := runWithin?_eq_some_iff fullLog {} (editorOn 4294967294) hlines
  obtain ⟨notice, rest, heq, htext, hlast⟩ := hnotices _ _ _ hfinds (by simp)
  refine ⟨hlines, hrun.2 fun h => ?_, ⟨notice, rest, heq, htext.trans (by decide)⟩, ?_⟩
  · exact absurd (hlast.1 h).2 (by decide)
  · exact (hdesk _ _ _ (by decide)).2 (by decide)

/-- With the cursor on the last line, a run with a full log stops, and no edit is made. -/
theorem Plan.runWithin?_lastLine :
    Plan.runWithin? fullLog UInt64.size {} (editorOn 4294967295) = none ∧
      (Plan.run {} (editorOn 4294967295)).notices =
        [.found "IFooData" 1, .inserting 3 4294967295, .generated 1 "IFooData"] ∧
      fullLog.canLog [.found "IFooData" 1, .inserting 3 4294967295] = false := by
  have hfinds : Finds {} (editorOn 4294967295) "Foo" [⟨"id", "number"⟩] ⟨4294967295, 0⟩ :=
    ⟨_, _, rfl, rfl, rfl, rfl, Query.extract_eq_ok_iff.2 ⟨by decide, by decide⟩⟩
  have hlast : LogsLastLine fullLog {} (editorOn 4294967295) :=
    ⟨_, _, _, hfinds, by simp, by decide, by decide⟩
  refine ⟨?_, by decide, by decide⟩
  rcases runWithin?_cases fullLog {} (fitsLines_editorOn 4294967295) with
    ⟨-, hnot⟩ | ⟨hstops, -⟩
  · exact absurd hlast hnot
  · exact hstops

end Accessors
