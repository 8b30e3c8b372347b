/-!
# Failures of collaborators

A collaborator that fails says why, and what it was doing when that happened.
`Failure` keeps these reasons from the outermost to the innermost.
-/

namespace TestImpact

/-- The reasons of a failure, the outermost first. -/
structure Failure where
  reasons : List String
  deriving DecidableEq, Repr

namespace Failure

def message (failure : Failure) : String := ": ".intercalate failure.reasons

def within (failure : Failure) (activity : String) : Failure := ⟨activity :: failure.reasons⟩

end Failure

end TestImpact
