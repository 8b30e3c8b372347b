import TestImpact.Glob.Nesting
import TestImpact.Glob.Pattern

/-!
# Patterns that cannot be used together

Patterns that can each be read may still be refused when they are put together. What is
refused hangs on how patterns are compared, so it is given as a `Limit`. Nesting is one such
limit. There are others, on the size of patterns and on those that end in an extension,
which `nestingLimit` leaves out.
-/

namespace TestImpact.Glob

abbrev Limit := List String → Option String

def deepestNesting : Nat := 250

/-- How deep a written pattern is nested, if it is compared together with others. -/
def nestingOf? (pattern : String) : Option Nat :=
  match readPattern .start none pattern.toList with
  | .ok tokens => nestingOfPattern? tokens
  | .error _ => none

/-- Refuses patterns of which one is nested too deep, and tells the first of them by its
place among those that are compared together. -/
def nestingLimit : Limit := fun patterns =>
  ((patterns.filterMap nestingOf?).findIdx? (deepestNesting < ·)).map fun place =>
    "error parsing pattern " ++ toString place

end TestImpact.Glob
