import Accessors.Text.Bytes
import Accessors.Unicode.Class

/-!
# The shape of a directive

A directive is a word, or a name, a scope in square brackets and a threshold, some of which may be
left out. `Shape.ofText?` tells which parts a text has and which bytes each of them takes up.
-/

namespace Accessors.Log

/-- What stands in square brackets. -/
inductive ScopeShape
  /-- Nothing, as there are no brackets. -/
  | none
  /-- The name of a span. -/
  | span
  /-- A field in braces, with the name of a span in front of it or without. -/
  | field (inSpan : Bool) (field : Text.Span)
deriving DecidableEq, Repr, Inhabited

/-- How a directive is put together. -/
inductive Shape
  | word
  /-- A name, which may be empty, a scope, and the byte where a threshold starts if there is one. -/
  | parts (name : Text.Span) (scope : ScopeShape) (threshold : Option Nat)
deriving DecidableEq, Repr, Inhabited

namespace Shape

def isNameStart (c : Char) : Bool :=
  Unicode.isAlphanumeric c || c == '-' || c == ':' || c == '_'

def isNameEnd (c : Char) : Bool :=
  c == '=' || c == '['

/-- Reads a scope in a text, from behind its opening bracket. What follows the closing bracket is
left. -/
def scope? (text cs : List Char) : Option (ScopeShape × List Char) :=
  let span := cs.takeWhile fun c => c != ']' && c != '\x7b'
  match cs.drop span.length with
  | ']' :: rest => some (.span, rest)
  | '\x7b' :: more =>
    let field := more.takeWhile (· ≠ '\x7d')
    match more.drop field.length with
    | '\x7d' :: ']' :: rest =>
      let bytes := ⟨Text.bytesInFront text more, Text.byteLength field⟩
      some (.field (!span.isEmpty) bytes, rest)
    | _ => none
  | _ => none

def ofText? (cs : List Char) : Option Shape :=
  let name := cs.takeWhile (!isNameEnd ·)
  let bytes := ⟨0, Text.byteLength name⟩
  if cs.head?.any fun c => isNameStart c || c == '[' then
    match cs.drop name.length with
    | [] => some .word
    | '[' :: more =>
      match scope? cs more with
      | some (scope, []) => some (.parts bytes scope none)
      | some (scope, '=' :: rest) => some (.parts bytes scope (Text.bytesInFront cs rest))
      | _ => none
    | _ :: rest => some (.parts bytes .none (Text.bytesInFront cs rest))
  else
    none

end Shape

end Accessors.Log
