/-!
# Sets of characters as ranges

A Unicode property is a set of code points, and a table of it is a list of closed ranges.
`Ranges.has` is membership. The tables of the properties this library needs are in
`Accessors.Unicode.Alphabetic`, `Accessors.Unicode.Mark`, `Accessors.Unicode.Number` and
`Accessors.Unicode.Recent`; the classes built from them are in `Accessors.Unicode.Class`.
-/

namespace Accessors.Unicode

/-- A set of characters, as closed ranges of code points. -/
abbrev Ranges := List (Nat × Nat)

/-- Whether a character lies in one of the ranges. -/
def Ranges.has (ranges : Ranges) (c : Char) : Bool :=
  ranges.any fun range => range.1 ≤ c.toNat && c.toNat ≤ range.2

theorem Ranges.has_append (r s : Ranges) (c : Char) :
    Ranges.has (r ++ s) c = (Ranges.has r c || Ranges.has s c) := by
  simp [Ranges.has, List.any_append]

end Accessors.Unicode
