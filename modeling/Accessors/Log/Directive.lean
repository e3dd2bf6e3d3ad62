import Accessors.Log.Field
import Accessors.Log.Notice
import Accessors.Log.Shape
import Accessors.Text.Trim

/-!
# Directives

A directive gives a threshold to the notices of the targets that start with a name, or to all
notices. It may ask for a span or a field in addition. Notices have one field, which holds their
wording, and are in no span.
-/

namespace Accessors.Log

/-- How much is logged: nothing at zero, and the notices of a level from its rank on. -/
abbrev Threshold := Nat

namespace Threshold

/-- The threshold at which everything is logged. -/
def all : Threshold := 5

/-- The threshold that a word names. -/
def ofName? : String → Option Threshold
  | "off" => some 0
  | "error" => some Level.error.rank
  | "warn" => some Level.warn.rank
  | "info" => some Level.info.rank
  | "debug" => some Level.debug.rank
  | "trace" => some all
  | _ => none

/-- The threshold that a word stands for: a name in any case, or a number. -/
def ofWord? (cs : List Char) : Option Threshold :=
  let digits := if cs.head? = some '+' then cs.tail else cs
  match Text.decimal? digits with
  | some number => if number ≤ all then some number else none
  | none => ofName? (String.ofList (cs.map Char.toLower))

/-- The threshold behind an equals sign; left out, everything is logged. -/
def ofRest? (cs : List Char) : Option Threshold :=
  if cs.isEmpty then some all else ofWord? cs

end Threshold

/-- Which notices of its targets a directive is for. -/
inductive Scope
  | everything
  /-- Those that have a field with this name. -/
  | withField (name : String)
  /-- Those that are in a span or have a field with some value, as no notice does. -/
  | elsewhere
deriving DecidableEq, Repr, Inhabited

/-- Whether a notice can be in a scope. -/
def Scope.isMet : Scope → Bool
  | everything => true
  | withField name => name == "message"
  | elsewhere => false

/-- How many fields a scope asks for. -/
def Scope.fields : Scope → Nat
  | withField _ => 1
  | _ => 0

/-- A part of a filter. -/
structure Directive where
  /-- How the target of a notice has to start. -/
  target : List Char := []
  /-- Which notices of these targets it is for. -/
  scope : Scope := .everything
  threshold : Threshold := Threshold.all
deriving DecidableEq, Repr, Inhabited

namespace Directive

/-- The scope of a field, for spans with a name or without. -/
def fieldScope? (inSpan : Bool) (cs : List Char) : Option Scope :=
  (Field.read? cs).map fun (name, value) =>
    if inSpan || value.isSome then .elsewhere else .withField (String.ofList name)

/-- The scope that is cut out of a text. -/
def scopeOf? (cs : List Char) : ScopeShape → Option Scope
  | .none => some .everything
  | .span => some .elsewhere
  | .field inSpan span => (Text.slice? span cs).bind (fieldScope? inSpan)

/-- The directive whose parts are cut out of a text. -/
def ofShape? (cs : List Char) : Shape → Option Directive
  | .word =>
    match Threshold.ofWord? cs with
    | some threshold => some { threshold }
    | none => some { target := cs }
  | .parts name scope start => do
    let target ← Text.slice? name cs
    let scope ← scopeOf? cs scope
    let threshold ←
      match start with
      | none => some Threshold.all
      | some start => (Text.dropBytes? start cs).bind Threshold.ofRest?
    return { target, scope, threshold }

/-- The directive that a text stands for. Its shape is found without the white space around it, but
the parts are cut out of the text as it is, so that white space in front shifts them. -/
def parse? (cs : List Char) : Option Directive :=
  (Shape.ofText? (Text.trim cs)).bind (ofShape? cs)

def applies (directive : Directive) (notice : Notice) : Bool :=
  directive.target.isPrefixOf notice.target.toList && directive.scope.isMet

/-- Whether one directive gives way to another that is for the same notice and comes after it: the
longer name wins, then the scope with a field, then the later one. -/
def yields (first second : Directive) : Bool :=
  first.target.length < second.target.length
    || first.target.length == second.target.length && first.scope.fields ≤ second.scope.fields

end Directive

end Accessors.Log
