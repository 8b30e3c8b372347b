import TestImpact.Glob.Limit
import TestImpact.Testing.RunConfig

/-!
# Narrowing tests by path

The patterns of a run are read once and put together, those that include before
those that exclude. The first that cannot be read is reported, or that a list is
refused as a whole. A path is allowed if it matches one of the including
patterns, or there are none, and none of the excluding ones.
-/

namespace TestImpact.Testing

/-- A pattern that cannot be read. -/
structure BadPattern where
  pattern : String
  fault : Glob.PatternFault
  deriving DecidableEq, Repr

def BadPattern.message (bad : BadPattern) : String :=
  "invalid test pattern '" ++ bad.pattern ++ "': error parsing glob '" ++ bad.pattern ++
    "': " ++ bad.fault.message

/-- Why the patterns of a run cannot be used. -/
inductive PatternsFault where
  | unreadable (bad : BadPattern)
  /-- Patterns that can each be read are refused together. -/
  | refused (reason : String)
  deriving DecidableEq, Repr

def PatternsFault.message : PatternsFault → String
  | unreadable bad => bad.message
  | refused reason => "invalid test patterns: " ++ reason

def compilePattern (pattern : String) : Except BadPattern Glob.Pattern :=
  match Glob.compile pattern with
  | .ok compiled => .ok compiled
  | .error fault => .error ⟨pattern, fault⟩

def assemble (limit : Glob.Limit) (patterns : List String) :
    Except PatternsFault (List Glob.Pattern) :=
  if patterns.isEmpty then .ok []
  else
    match patterns.mapM compilePattern with
    | .error bad => .error (.unreadable bad)
    | .ok compiled =>
        match limit patterns with
        | none => .ok compiled
        | some reason => .error (.refused reason)

/-- The patterns of a run, ready for use. -/
structure PathFilter where
  included : List Glob.Pattern
  excluded : List Glob.Pattern

namespace PathFilter

def ofConfig (limit : Glob.Limit) (config : RunConfig) : Except PatternsFault PathFilter := do
  let included ← assemble limit config.included
  let excluded ← assemble limit config.excluded
  return ⟨included, excluded⟩

def isNoop (filter : PathFilter) : Bool := filter.included.isEmpty && filter.excluded.isEmpty

def allows (filter : PathFilter) (path : String) : Bool :=
  (filter.included.isEmpty || filter.included.any (·.containsPath path)) &&
    !filter.excluded.any (·.containsPath path)

/-- Without patterns every path is allowed. -/
theorem allows_of_isNoop {filter : PathFilter} (noop : filter.isNoop = true) (path : String) :
    filter.allows path = true := by
  obtain ⟨noneIncluded, noneExcluded⟩ := Bool.and_eq_true_iff.mp noop
  rw [allows, noneIncluded, List.isEmpty_iff.mp noneExcluded]
  rfl

/-- Keeps the paths that are allowed. Without patterns no path is looked at. -/
def narrow (filter : PathFilter) (paths : List String) : List String :=
  if filter.isNoop then paths else paths.filter filter.allows

theorem narrow_eq_filter (filter : PathFilter) (paths : List String) :
    filter.narrow paths = paths.filter filter.allows := by
  rw [narrow]
  split
  · rename_i noop
    exact (List.filter_eq_self.mpr fun path _ => allows_of_isNoop noop path).symm
  · rfl

end PathFilter

end TestImpact.Testing
