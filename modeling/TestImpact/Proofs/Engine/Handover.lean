import TestImpact.Proofs.Engine.Exclusion
import TestImpact.Proofs.Engine.Runs

/-!
# What a full run hands over

A full run asks for the tests of the project once and hands one suite to the runner, in
which every discovered test that the scope takes and the patterns permit stands as it was
discovered, in order and as often. What is wrong first decides how the run ends: a missing
runner, patterns that cannot be used, tests that cannot be discovered, a suite that cannot
be run. Nothing else does, and an empty suite is run like any other.
-/

namespace TestImpact

namespace Testing

/-- The kinds of tests that a scope takes. -/
inductive Scope.Takes : Scope → TestKind → Prop where
  | all (kind : TestKind) : Takes .all kind
  | affected (kind : TestKind) : Takes .affected kind
  | affectedSmoke (kind : TestKind) : Takes .affectedSmoke kind
  | unit : Takes .unit .unit
  | integration : Takes .integration .integration
  | smoke : Takes .smoke .smoke

theorem Scope.takes_iff {scope : Scope} {kind : TestKind} :
    scope.Takes kind ↔ scope.kind?.all (kind = ·) = true := by
  constructor
  · intro takes
    cases takes <;> rfl
  · intro narrowed
    cases scope with
    | all => exact .all kind
    | affected => exact .affected kind
    | affectedSmoke => exact .affectedSmoke kind
    | unit =>
        obtain rfl : kind = .unit := of_decide_eq_true narrowed
        exact .unit
    | integration =>
        obtain rfl : kind = .integration := of_decide_eq_true narrowed
        exact .integration
    | smoke =>
        obtain rfl : kind = .smoke := of_decide_eq_true narrowed
        exact .smoke

/-- A run selects a test: its scope takes the kind, and its patterns permit the path. -/
def RunConfig.Selects (config : RunConfig) (test : Test) : Prop :=
  config.scope.Takes test.kind ∧ config.Permits test.path

/-- The tests of a list that are wanted, as they are, in order and as often. -/
inductive Picks (Wanted : Test → Prop) : List Test → List Test → Prop where
  | none : Picks Wanted [] []
  | keep {test : Test} {tests picked : List Test} (wanted : Wanted test)
      (rest : Picks Wanted tests picked) : Picks Wanted (test :: tests) (test :: picked)
  | leave {test : Test} {tests picked : List Test} (unwanted : ¬ Wanted test)
      (rest : Picks Wanted tests picked) : Picks Wanted (test :: tests) picked

theorem picks_filter {Wanted : Test → Prop} {keep : Test → Bool}
    (decides : ∀ test, keep test = true ↔ Wanted test) (tests : List Test) :
    Picks Wanted tests (tests.filter keep) := by
  induction tests with
  | nil => exact .none
  | cons test tests ih =>
      by_cases kept : keep test = true
      · rw [List.filter_cons_of_pos kept]
        exact .keep ((decides test).mp kept) ih
      · rw [List.filter_cons_of_neg kept]
        exact .leave (mt (decides test).mpr kept) ih

/-- The suite that a run is to hand over when tests are discovered. -/
structure Suite.HoldsSelected (suite : Suite) (config : RunConfig) (tests : List Test) :
    Prop where
  /-- The suite has the base name of the project, or the whole path without one. -/
  name : suite.name = (Path.fileName? config.project).getD config.project
  language : suite.language = config.language
  project : suite.project = config.project
  tests : Picks config.Selects tests suite.tests
  config : suite.config = some config

end Testing

open Testing

namespace Engine

theorem holdsSelected_selectedSuite {config : RunConfig} {filter : PathFilter}
    (permits : ∀ path, filter.allows path = true ↔ config.Permits path) (tests : List Test) :
    (selectedSuite config filter tests).HoldsSelected config tests where
  name := rfl
  language := rfl
  project := rfl
  tests := by
    change Picks config.Selects tests ((inScope tests config.scope).filter _)
    rw [inScope, List.filter_filter]
    refine picks_filter (fun test => ?_) tests
    rw [Bool.and_eq_true, permits, ← Scope.takes_iff, and_comm]
    rfl
  config := rfl

/-- There is a runner for a run, and its patterns can be used. -/
structure Ready (engine : Engine) (config : RunConfig) : Prop where
  runner : engine.registry.hasRunner config.language = true
  usable : config.UsablePatterns engine.patternLimit

/-- How a full run ends, and what is said in it. -/
inductive HandsOver (engine : Engine) (config : RunConfig) (collaborators : Collaborators) :
    Except EngineError (Diagnosed (List TestResult)) × List Exchange → Prop where
  /-- Without a runner nothing is asked. -/
  | unrunnable (missing : engine.registry.hasRunner config.language = false) :
      HandsOver engine config collaborators (.error (.noRunner config.language), [])
  /-- Nor is it with invalid patterns. What is wrong with them first is reported: a pattern
  that cannot be read, or that patterns are refused together. -/
  | invalid (runner : engine.registry.hasRunner config.language = true)
      {fault : PatternsFault} (first : fault.FirstOf engine.patternLimit config) :
      HandsOver engine config collaborators (.error (.invalidConfig (.patterns fault)), [])
  /-- If the tests cannot be discovered, nothing is run. -/
  | undiscovered (ready : engine.Ready config) {cause : Failure}
      (failed : collaborators [] (.discover config.language config.project) = .error cause) :
      HandsOver engine config collaborators
        (.error (.discovery cause), [⟨.discover config.language config.project, .error cause⟩])
  /-- The selected tests are handed over as one suite, which the runner cannot run. -/
  | unexecuted (ready : engine.Ready config) {tests : List Test} {suite : Suite}
      {cause : Failure}
      (discovered : collaborators [] (.discover config.language config.project) = .ok tests)
      (holds : suite.HoldsSelected config tests)
      (failed : collaborators [⟨.discover config.language config.project, .ok tests⟩]
        (.runSuite suite) = .error cause) :
      HandsOver engine config collaborators
        (.error (.execution cause),
          [⟨.discover config.language config.project, .ok tests⟩,
           ⟨.runSuite suite, .error cause⟩])
  /-- The runner runs the suite, and its results are given back as they are. -/
  | executed (ready : engine.Ready config) {tests : List Test} {suite : Suite}
      {results : List TestResult}
      (discovered : collaborators [] (.discover config.language config.project) = .ok tests)
      (holds : suite.HoldsSelected config tests)
      (ran : collaborators [⟨.discover config.language config.project, .ok tests⟩]
        (.runSuite suite) = .ok results) :
      HandsOver engine config collaborators
        (.ok ⟨results, []⟩,
          [⟨.discover config.language config.project, .ok tests⟩,
           ⟨.runSuite suite, .ok results⟩])

/-- A full run that is not cancelled hands the selected suite over, or ends with the first
thing that is wrong. -/
theorem handsOver_runTests (engine : Engine) (config : RunConfig)
    (collaborators : Collaborators) :
    HandsOver engine config collaborators
      ((engine.runTests config).converse collaborators []) := by
  cases runner : engine.registry.hasRunner config.language with
  | false =>
      rw [runTests_unrunnable runner]
      exact .unrunnable runner
  | true =>
      rcases engine.pathFilter_cases config with ⟨filter, narrowed, usable, permits⟩ |
        ⟨fault, refused, first⟩
      · cases discovered : collaborators [] (.discover config.language config.project) with
        | error cause =>
            rw [converse_runTests_error collaborators [] runner narrowed discovered, discovery,
              discovered]
            exact .undiscovered ⟨runner, usable⟩ discovered
        | ok tests =>
            have ended := converse_runTests collaborators [] runner narrowed discovered
            have holds := holdsSelected_selectedSuite permits tests
            dsimp only at ended
            rw [discovery, discovered, suiteExchange, List.nil_append, List.nil_append] at ended
            rw [ended]
            cases answered : collaborators
                [⟨.discover config.language config.project, .ok tests⟩]
                (.runSuite (selectedSuite config filter tests)) with
            | error cause => exact .unexecuted ⟨runner, usable⟩ discovered holds answered
            | ok results => exact .executed ⟨runner, usable⟩ discovered holds answered
      · rw [runTests_eq_stop runner refused]
        exact .invalid runner first

end Engine

end TestImpact
