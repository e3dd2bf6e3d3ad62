import Accessors.Declaration.Property

/-!
# The layout of accessors

A property becomes a getter and a setter that go through the `get` and `set` of the model the class
extends. `Layout.fragments` lists the pieces that are inserted for a list of properties, and
`Layout.block` is the text they make up.
-/

namespace Accessors

/-- The getter and the setter of a property. -/
structure Pair where
  getter : String
  setter : String
deriving DecidableEq, Repr, Inhabited

/-- How accessors are laid out. -/
structure Layout where
  /-- How many spaces a member is indented by; its body is indented by twice as many. -/
  indent : Nat := 2
deriving DecidableEq, Repr, Inhabited

namespace Layout

/-- What stands between a getter and its setter, and between two pairs. -/
def separator : String := "\n\n"

/-- The space in front of a member. -/
def margin (layout : Layout) : String :=
  String.ofList (List.replicate layout.indent ' ')

/-- A member with a one-line body. -/
def member (layout : Layout) (signature body : String) : String :=
  layout.margin ++ signature ++ " \x7b\n"
    ++ layout.margin ++ layout.margin ++ body ++ "\n"
    ++ layout.margin ++ "\x7d"

def getter (layout : Layout) (property : Property) : String :=
  layout.member ("public get " ++ property.name ++ "(): " ++ property.type)
    ("return this.get<" ++ property.type ++ ">('" ++ property.name ++ "');")

def setter (layout : Layout) (property : Property) : String :=
  layout.member ("public set " ++ property.name ++ "(value: " ++ property.type ++ ")")
    ("this.set('" ++ property.name ++ "', value);")

def pair (layout : Layout) (property : Property) : Pair :=
  ⟨layout.getter property, layout.setter property⟩

/-- The pieces that are inserted for the properties: every getter and setter with separators in
between and none at the end. -/
def fragments (layout : Layout) : List Property → List String
  | [] => []
  | [p] => [layout.getter p, separator, layout.setter p]
  | p :: q :: ps =>
    layout.getter p :: separator :: layout.setter p :: separator :: fragments layout (q :: ps)

/-- The text that is inserted for the properties. -/
def block (layout : Layout) (properties : List Property) : String :=
  String.join (layout.fragments properties)

theorem length_fragments (layout : Layout) (ps : List Property) :
    (layout.fragments ps).length = 4 * ps.length - 1 := by
  fun_induction fragments layout ps with
  | case1 => rfl
  | case2 => rfl
  | case3 p q ps ih => simp_all; omega

end Layout

end Accessors
