import TestImpact.Affected.Impact
import TestImpact.Engine.Basic
import TestImpact.Reach.Watched

/-!
# Building the impact of a change

The changed files are followed through the symbol graph, and every file reached
is looked up with the analyzer of its language. A graph that cannot be built
narrows the impact to the changed files; files that cannot be looked up are left
out of the coverage. Both are told in warnings.
-/

namespace TestImpact

open Listing (Dictionary collect firstOccurrences)

/-- What is reached from one changed file. -/
structure Reached where
  file : String
  /-- The files that it references. -/
  direct : List String
  /-- The files further away, in the order of discovery. -/
  indirect : List String
  deriving DecidableEq, Repr

/-- What became of looking up the tests of a file. -/
inductive Lookup where
  | unsupported (type : String)
  | unanalyzed (language : SourceLanguage)
  | answered (answer : Except Failure (List String))

namespace Engine

def graphWarning (project : String) (cause : GraphError) : Warning :=
  ⟨.symbolGraphUnavailable, some project, "analyzing changed files only: " ++ cause.message⟩

def follow (engine : Engine) (graph : SymbolGraph) (file : String) : Plan Reached := do
  let direct := Reach.Resolver.direct graph file
  match ← engine.resolver.traverseWatched graph direct with
  | .ok found => return ⟨file, direct, found.discovered⟩
  | .error cause => .stop (.ofGraph cause)

def impactOf (changed : List String) (reached : List Reached) : Impact :=
  { Impact.ofChanged changed with
    affected := (reached.flatMap fun item => item.direct ++ item.indirect).foldl collect
      (Impact.ofChanged changed).affected
    dependencies := .ofList (reached.map fun item => (item.file, item.direct)) }

def lookUp (engine : Engine) (project file : String) : Plan (String × Lookup) :=
  match SourceLanguage.ofPath? file with
  | none => return (file, .unsupported (SourceLanguage.unknownType file))
  | some language =>
      if engine.registry.hasAnalyzer language.name then do
        return (file, .answered (← Plan.request (.findTests language.name file project)))
      else return (file, .unanalyzed language)

def coverageOf (lookups : List (String × Lookup)) : Dictionary (List String) :=
  .ofList (lookups.filterMap fun
    | (file, .answered (.ok tests)) => some (file, tests)
    | _ => none)

/-- The warnings about files that could not be looked up, in order. A language
without an analyzer is told once. -/
def lookupWarnings : (told : List SourceLanguage) → List (String × Lookup) → List Warning
  | _, [] => []
  | told, (file, .unsupported type) :: rest =>
      ⟨.unsupportedFileType, some file, (EngineError.unsupportedFileType type).message⟩ ::
        lookupWarnings told rest
  | told, (_, .unanalyzed language) :: rest =>
      if language ∈ told then lookupWarnings told rest
      else
        ⟨.analyzerMissing, some language.name,
          "no test analyzer registered; files of this language are not mapped"⟩ ::
          lookupWarnings (language :: told) rest
  | told, (_, .answered (.ok _)) :: rest => lookupWarnings told rest
  | told, (file, .answered (.error cause)) :: rest =>
      ⟨.testLookupFailed, some file, (EngineError.testLookup file cause).message⟩ ::
        lookupWarnings told rest

def requestGraph (engine : Engine) (project : String) :
    Plan (Except GraphError SymbolGraph) := do
  Plan.ask
  let graph ← Plan.request (.graph project)
  if engine.providerWaits then Plan.ask
  return graph

def buildImpact (engine : Engine) (changed : List String) (project : String) :
    Plan (Diagnosed Impact) := do
  match ← engine.requestGraph project with
  | .error cause => return ⟨.ofChanged changed, [graphWarning project cause]⟩
  | .ok graph =>
      let reached ← Plan.inTurn (engine.follow graph) (firstOccurrences changed)
      let impact := impactOf changed reached
      let lookups ← Plan.inTurn (engine.lookUp project) impact.affected
      return ⟨{ impact with coverage := coverageOf lookups }, lookupWarnings [] lookups⟩

end Engine

end TestImpact
