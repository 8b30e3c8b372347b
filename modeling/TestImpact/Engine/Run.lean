import TestImpact.Engine.Basic
import TestImpact.Affected.Impact

/-!
# Runs

A full run hands every selected test to the runner in one batch. A targeted run
runs the tests that cover the affected files one by one, smoke tests first where
the scope asks for them, and falls back to a full run when there is no analyzer
or nothing is selected. A test that cannot be run fails and the rest go on.
-/

namespace TestImpact.Engine

open Listing (collect)
open Testing

def discover (language project : String) : Plan (List Test) := do
  match ← Plan.request (.discover language project) with
  | .ok tests => return tests
  | .error cause => .stop (.discovery cause)

def discoverTests (engine : Engine) (project language : String) : Plan Suite := do
  engine.requireRunner language
  Plan.ask
  return .ofProject language project (← discover language project)

def pathFilter (engine : Engine) (config : RunConfig) : Except EngineError PathFilter :=
  (PathFilter.ofConfig engine.patternLimit config).mapError fun fault =>
    .invalidConfig (.patterns fault)

def selectedSuite (config : RunConfig) (filter : PathFilter) (tests : List Test) : Suite :=
  { Suite.ofProject config.language config.project
      ((inScope tests config.scope).filter fun test => filter.allows test.path) with
    config := some config }

def runTests (engine : Engine) (config : RunConfig) : Plan (Diagnosed (List TestResult)) := do
  engine.requireRunner config.language
  let filter ← Plan.take (engine.pathFilter config)
  Plan.ask
  let tests ← discover config.language config.project
  Plan.ask
  match ← Plan.request (.runSuite (selectedSuite config filter tests)) with
  | .ok results => return .clean results
  | .error cause => .stop (.execution cause)

def confirmed (outcomes : List (String × Except Failure Bool)) : List String :=
  outcomes.filterMap fun
    | (item, .ok true) => some item
    | _ => none

def checkEach (language : String) (tests : List Test) :
    Plan (List (String × Except Failure Bool)) :=
  Plan.inTurn
    (fun test => do return (test.path, ← Plan.request (.isSmoke language test.path))) tests

def findSmokeTests (engine : Engine) (project language : String) :
    Plan (Diagnosed (List String)) := do
  engine.requireAnalyzer language
  let suite ← engine.discoverTests project language
  let outcomes ← checkEach language suite.tests
  return ⟨confirmed outcomes, failureWarnings .smokeCheckFailed outcomes⟩

def foundTests (lookups : List (String × Except Failure (List String))) : List String :=
  lookups.foldl
    (fun found lookup =>
      match lookup.2 with
      | .ok tests => tests.foldl collect found
      | .error _ => found)
    []

def lookUpTests (config : RunConfig) (files : List String) :
    Plan (List (String × Except Failure (List String))) :=
  Plan.inTurn
    (fun file => do
      return (file, ← Plan.request (.findTests config.language file config.project)))
    files

def smokeBefore (smoke targeted : List String) : List String :=
  (smoke ++ targeted).foldl collect []

def smokeWarning (language : String) (cause : EngineError) : Warning :=
  ⟨.smokeDiscoveryFailed, some language,
    "continuing with affected tests only: " ++ cause.message⟩

/-- Puts the smoke tests of a project first where the scope asks for them. Without
discovery the tests stay as they are, and a warning says so; a search that was
cancelled is no such warning. -/
def smokeFirst (engine : Engine) (config : RunConfig) (targeted : List String) :
    Plan (Diagnosed (List String)) := do
  if config.scope.includesSmoke then
    match ← (engine.findSmokeTests config.project config.language).attempt with
    | .ok smoke => return ⟨smokeBefore smoke.value targeted, smoke.warnings⟩
    | .error .cancelled => .stop .cancelled
    | .error cause => return ⟨targeted, [smokeWarning config.language cause]⟩
  else return .clean targeted

def runEach (config : RunConfig) (tests : List String) :
    Plan (List (String × Except Failure TestResult)) :=
  Plan.inTurn (fun test => do return (test, ← Plan.request (.runTest test config))) tests

/-- The results of tests that were run one by one. A test that could not be run has
failed. -/
def resultsOf (config : RunConfig) (outcomes : List (String × Except Failure TestResult)) :
    List TestResult :=
  outcomes.map fun
    | (_, .ok result) => result
    | (test, .error cause) => .failed test config.language cause.message

def analyzerWarning (language : String) : Warning :=
  ⟨.analyzerMissing, some language, "no test analyzer registered; running the full suite"⟩

def selectionWarning (affected : List String) : Warning :=
  ⟨.noTargetedTests, none,
    "no tests mapped from " ++ toString affected.length ++
      " affected files; running the full suite"⟩

/-- Runs the selected tests one by one, or all tests if none is selected. -/
def runSelected (engine : Engine) (config : RunConfig) (affected : List String)
    (warnings : List Warning) (selected : List String) :
    Plan (Diagnosed (List TestResult)) := do
  if selected.isEmpty then
    let full ← engine.runTests config
    return full.after (warnings ++ [selectionWarning affected])
  else
    let outcomes ← runEach config selected
    return ⟨resultsOf config outcomes,
      warnings ++ failureWarnings .testExecutionFailed outcomes⟩

def runTargeted (engine : Engine) (config : RunConfig) (impact : Impact) :
    Plan (Diagnosed (List TestResult)) := do
  engine.requireRunner config.language
  let filter ← Plan.take (engine.pathFilter config)
  if engine.registry.hasAnalyzer config.language then
    let lookups ← lookUpTests config impact.affected
    let ordered ← engine.smokeFirst config (foundTests lookups)
    let warnings := failureWarnings .testLookupFailed lookups ++ ordered.warnings
    engine.runSelected config impact.affected warnings (filter.narrow ordered.value)
  else
    let full ← engine.runTests config
    return full.after [analyzerWarning config.language]

end TestImpact.Engine
