import Accessors.Log.Directive
import Accessors.Text.Split

/-!
# Choosing what to log

A filter is a list of directives, written with commas in between. For each notice the most specific
directive that fits decides. A notice that no directive fits is not logged, and is never put into
words.
-/

namespace Accessors.Log

/-- What decides which notices are logged. -/
abbrev Filter := List Directive

namespace Filter

/-- Reads a filter. One without a directive lets nothing through. -/
def parse? (text : String) : Option Filter :=
  ((Text.pieces ',' text.toList).filter (!·.isEmpty)).mapM Directive.parse?

/-- The name that the targets of all notices start with. -/
def ownTarget : List Char := "accessor_gen".toList

/-- The filter in place of one that is not given or cannot be read. -/
def standard (verbose : Bool) : Filter :=
  let own level : Directive := { target := ownTarget, threshold := Level.rank level }
  if verbose then [own .debug, { threshold := Level.info.rank }] else [own .info]

/-- The filter that is given, or the standard one. -/
def choose (verbose : Bool) (given : Option String) : Filter :=
  (given.bind parse?).getD (standard verbose)

/-- The directive that decides on a notice. -/
def decisive (filter : Filter) (notice : Notice) : Option Directive :=
  (filter.filter (·.applies notice)).foldl
    (fun best directive =>
      match best with
      | some other => if other.yields directive then some directive else some other
      | none => some directive)
    none

def passes (filter : Filter) (notice : Notice) : Bool :=
  (filter.decisive notice).any fun directive => notice.level.rank ≤ directive.threshold

/-- Whether all notices that are logged can be put into words. A program stops at the first one that
cannot. -/
def canLog (filter : Filter) (notices : List Notice) : Bool :=
  (notices.filter filter.passes).all Notice.hasText

end Filter

end Accessors.Log
