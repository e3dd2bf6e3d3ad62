import Accessors.Proofs.Declaration.Block
import Accessors.Proofs.Text.Column
import Mathlib.Data.List.TakeWhile

/-!
# How far an interface reaches

The properties of a declaration are read from the lines between the first line with its header and
the next line that is a closing brace and nothing else. Nothing in front of that header and nothing
behind that brace has a say in it, and no more does what stands in the lines between, be it another
header or an indented brace (`extract_extent`). Only a name that is too long for a pattern is an
error (`extract_withLead`).
-/

namespace Accessors.Query

open Declaration

theorem isClosing_iff {line : String} :
    isClosing line = true ↔ line = "\x7d" ∨ line = "\x7d;" := by
  simp [isClosing]

theorem filter_isField (query : Query) (body : List String) :
    body.filter query.isField =
      if query.skipBlank then body.filter fun line => !Text.isBlankText line.toList else body := by
  cases hskip : query.skipBlank with
  | false =>
    rw [if_neg (by decide), List.filter_eq_self]
    intro line _
    rw [isField, hskip]
    rfl
  | true =>
    rw [if_pos rfl]
    refine List.filter_congr fun line _ => ?_
    rw [isField, hskip, Bool.true_and]

theorem fields_of_open {query : Query} {body : List String}
    (h : ∀ line ∈ body, isClosing line = false) :
    query.fields body = (body.filter query.isField).map Property.ofLine := by
  rw [fields, List.takeWhile_eq_self_iff.2]
  intro line hline
  rw [h line hline]
  rfl

theorem properties_eq_fields {query : Query} {declaration header : String} {before : List String}
    (hbefore : ∀ line ∈ before, Header.occursIn (query.interface declaration) line = false)
    (hheader : Header.occursIn (query.interface declaration) header = true)
    (rest : List String) :
    query.properties (before ++ header :: rest) declaration = query.fields rest := by
  rw [properties_append hbefore, properties, locate?, if_pos hheader]

theorem properties_of_no_header {query : Query} {declaration : String} {lines : List String}
    (h : ∀ line ∈ lines, Header.occursIn (query.interface declaration) line = false) :
    query.properties lines declaration = [] := by
  rw [properties, locate?_eq_none_iff.2 h]

/-- **The properties depend on the interface alone**: not on the lines in front of it, not on the
lines behind it, and not on there being a line that closes it. They are what its lines declare, one
by one and in order, without the blank lines if these are passed over. Where no line has the header,
there are none. Lines are never the cause of an error: there is one exactly if no pattern can be
compiled for the name of the interface, and then whatever the lines are. -/
theorem extract_extent {query : Query} {declaration header closing : String}
    {before before' body after after' : List String}
    (hbefore : ∀ line ∈ before, Header.occursIn (query.interface declaration) line = false)
    (hbefore' : ∀ line ∈ before', Header.occursIn (query.interface declaration) line = false)
    (hheader : Header.occursIn (query.interface declaration) header = true)
    (hbody : ∀ line ∈ body, line ≠ "\x7d" ∧ line ≠ "\x7d;")
    (hclosing : closing = "\x7d" ∨ closing = "\x7d;") :
    query.extract (before ++ [header] ++ body ++ [closing] ++ after) declaration =
        query.extract (before' ++ [header] ++ body ++ [closing] ++ after') declaration ∧
      query.extract (before ++ [header] ++ body ++ [closing] ++ after) declaration =
        query.extract ([header] ++ body) declaration ∧
      (Header.isCompilable (query.interface declaration) = true →
        query.extract ([header] ++ body) declaration =
          .ok ((if query.skipBlank then body.filter fun line => !Text.isBlankText line.toList
            else body).map Property.ofLine)) ∧
      (Header.isCompilable (query.interface declaration) = true → ∀ lines : List String,
        (∀ line ∈ lines, Header.occursIn (query.interface declaration) line = false) →
          query.extract lines declaration = .ok []) ∧
      ∀ (lines : List String) (error : Error), query.extract lines declaration = .error error ↔
        Header.isCompilable (query.interface declaration) = false ∧ error = Header.sizeError := by
  have hopen : ∀ line ∈ body, isClosing line = false := fun line hline =>
    Bool.eq_false_iff.2 fun hclose => (isClosing_iff.1 hclose).elim (hbody line hline).1
      (hbody line hline).2
  have hread : query.properties ([header] ++ body) declaration =
      (body.filter query.isField).map Property.ofLine :=
    (properties_eq_fields (List.forall_mem_nil _) hheader body).trans (fields_of_open hopen)
  have hclosed (front back : List String)
      (hfront : ∀ line ∈ front, Header.occursIn (query.interface declaration) line = false) :
      query.properties (front ++ [header] ++ body ++ [closing] ++ back) declaration =
        (body.filter query.isField).map Property.ofLine := by
    have happend : front ++ [header] ++ body ++ [closing] ++ back =
        front ++ header :: (body ++ closing :: back) := by simp
    rw [happend, properties_eq_fields hfront hheader,
      fields_append hopen (isClosing_iff.2 hclosing)]
  refine ⟨?_, ?_, ?_, ?_, fun lines error => extract_eq_error_iff⟩
  · exact extract_congr ((hclosed before after hbefore).trans (hclosed before' after' hbefore').symm)
  · exact extract_congr ((hclosed before after hbefore).trans hread.symm)
  · intro hcompiles
    exact extract_eq_ok_iff.2 ⟨hcompiles, by rw [hread, filter_isField]⟩
  · intro hcompiles lines hnone
    exact extract_eq_ok_iff.2 ⟨hcompiles, properties_of_no_header hnone⟩

theorem extract_extent_nested :
    let query : Query := { skipBlank := true }
    let body := ["  id: number;", "", "  \x7d", "interface IFooData \x7b"]
    let header := "export interface IFooData<T> \x7b"
    let before := ["interface IFoo \x7b", "\x7d"]
    let after := ["interface IFooData \x7b", "  name: string;", "\x7d"]
    (∀ line ∈ before, Header.occursIn (query.interface "Foo") line = false) ∧
      Header.occursIn (query.interface "Foo") header = true ∧
      (∀ line ∈ body, line ≠ "\x7d" ∧ line ≠ "\x7d;") ∧
      query.extract (before ++ [header] ++ body ++ ["\x7d;"] ++ after) "Foo" =
        .ok [⟨"id", "number"⟩, ⟨"", "\x7d"⟩, ⟨"", "interface IFooData \x7b"⟩] := by
  have hbefore : ∀ line ∈ ["interface IFoo \x7b", "\x7d"],
      Header.occursIn (Query.interface { skipBlank := true } "Foo") line = false := by
    decide +kernel
  have hheader : Header.occursIn (Query.interface { skipBlank := true } "Foo")
      "export interface IFooData<T> \x7b" = true := by decide +kernel
  have hbody : ∀ line ∈ ["  id: number;", "", "  \x7d", "interface IFooData \x7b"],
      line ≠ "\x7d" ∧ line ≠ "\x7d;" := by decide
  obtain ⟨-, hclosed, hread, -⟩ := @extract_extent { skipBlank := true } "Foo" _ "\x7d;" _ [] _
    ["interface IFooData \x7b", "  name: string;", "\x7d"] [] hbefore (List.forall_mem_nil _)
    hheader hbody (.inr rfl)
  refine ⟨hbefore, hheader, hbody, hclosed.trans ((hread (by decide)).trans ?_)⟩
  exact congrArg Except.ok (by decide +kernel)

/-- A query with this many letters in front of the names of declarations. -/
def withLead (letters : Nat) : Query where
  naming := { lead := String.ofList (List.replicate letters 'a') }

theorem isCompilable_withLead {letters : Nat} (h : 326061 < letters) (declaration : String) :
    Header.isCompilable ((withLead letters).interface declaration) = false := by
  have hlead : (withLead letters).naming.lead.utf8ByteSize = letters := by
    rw [withLead, Text.utf8ByteSize_ofList, Text.byteLength_replicate]
    exact Nat.mul_one letters
  rw [Bool.eq_false_iff, ne_eq, Header.isCompilable_iff, interface, Naming.interface,
    String.utf8ByteSize_append, String.utf8ByteSize_append, hlead]
  omega

/-- **Without a header there is an error still** if the name is too long for a pattern. -/
theorem extract_withLead :
    (∀ line ∈ ([] : List String),
        Header.occursIn ((withLead 400000).interface "Foo") line = false) ∧
      (withLead 400000).extract [] "Foo" = .error (.pattern
        "Compiled regex exceeds size limit of 10485760 bytes.") := by
  have htext : Header.sizeError =
      .pattern "Compiled regex exceeds size limit of 10485760 bytes." := by rfl
  have hcompiles : Header.isCompilable ((withLead 400000).interface "Foo") = false :=
    isCompilable_withLead (by decide) "Foo"
  exact ⟨List.forall_mem_nil _, extract_eq_error_iff.2 ⟨hcompiles, htext.symm⟩⟩

end Accessors.Query
