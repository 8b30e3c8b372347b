import TestImpact.Proofs.Engine.Exclusion
import TestImpact.Proofs.Engine.Fallback

/-!
# Tests that cannot be run

A targeted run that comes to run tests runs all that it has selected and ends well. Each
test is settled by what its own run was answered with: the runner's result stands as it
is, and a test that could not be run gets a failed result and one warning, both in the
words of its failure. What one test comes to changes neither which tests are run nor what
becomes of another.
-/

namespace TestImpact

open Testing

/-- A result that stands for a test that could not be run. -/
structure Testing.TestResult.StandsIn (result : TestResult) (test language : String)
    (cause : Failure) : Prop where
  success : result.success = false
  path : result.path = test
  /-- The name of the file, or the whole path without one. -/
  name : result.name = (Path.fileName? test).getD test
  language : result.language = language
  duration : result.duration = 0
  output : result.output = ""
  error : result.error = some cause.message

theorem Testing.TestResult.standsIn_failed (test language : String) (cause : Failure) :
    (TestResult.failed test language cause.message).StandsIn test language cause :=
  ⟨rfl, rfl, rfl, rfl, rfl, rfl, rfl⟩

theorem Testing.TestResult.StandsIn.eq_failed {result : TestResult} {test language : String}
    {cause : Failure} (stands : result.StandsIn test language cause) :
    result = .failed test language cause.message := by
  cases result
  cases stands
  simp_all only [failed, passed, Path.displayName]

namespace Engine

/-- Tests that are run by themselves, their results, and the warnings about those that
could not be run, side by side. -/
inductive Settles (config : RunConfig) :
    List Exchange → List TestResult → List Warning → Prop where
  | none : Settles config [] [] []
  | ran {batch : List Exchange} {results : List TestResult} {warnings : List Warning}
      (test : String) (result : TestResult) (rest : Settles config batch results warnings) :
      Settles config (⟨runCall config test, .ok result⟩ :: batch) (result :: results) warnings
  | failed {batch : List Exchange} {results : List TestResult} {warnings : List Warning}
      (test : String) (cause : Failure) {result : TestResult}
      (stands : result.StandsIn test config.language cause)
      (rest : Settles config batch results warnings) :
      Settles config (⟨runCall config test, .error cause⟩ :: batch) (result :: results)
        (⟨.testExecutionFailed, some test, cause.message⟩ :: warnings)

variable {config : RunConfig}

/-- What a targeted run makes of its tests settles them, one after the other. -/
theorem settles_of_runCalls {batch : List Exchange} {tests : List String}
    (calls : batch.map (·.call) = tests.map (runCall config)) :
    Settles config batch (resultsOf config (batch.filterMap Exchange.testRun?))
      (failureWarnings .testExecutionFailed (batch.filterMap Exchange.testRun?)) := by
  induction tests generalizing batch with
  | nil =>
      obtain rfl := List.map_eq_nil_iff.mp calls
      exact .none
  | cons test tests ih =>
      obtain ⟨⟨call, answer⟩, batch, rfl, question, later⟩ := List.map_eq_cons_iff.mp calls
      obtain rfl : call = runCall config test := question
      cases answer with
      | ok result => exact .ran test result (ih later)
      | error cause => exact .failed test cause (TestResult.standsIn_failed _ _ _) (ih later)

namespace Settles

variable {batch : List Exchange} {results : List TestResult} {warnings : List Warning}

def settled? (config : RunConfig) (exchange : Exchange) : Option TestResult :=
  exchange.testRun?.bind fun outcome => (resultsOf config [outcome]).head?

/-- The result at a position is told by the exchange at that position alone. -/
theorem getElem?_eq (settles : Settles config batch results warnings) (position : Nat) :
    results[position]? = batch[position]?.bind (settled? config) := by
  induction settles generalizing position with
  | none => rfl
  | ran test result rest ih =>
      cases position with
      | zero => rfl
      | succ position => exact ih position
  | failed test cause stands rest ih =>
      cases position with
      | zero => exact congrArg some stands.eq_failed
      | succ position => exact ih position

theorem kind_of_mem (settles : Settles config batch results warnings) :
    ∀ warning ∈ warnings, warning.kind = .testExecutionFailed := by
  induction settles with
  | none => simp
  | ran test result rest ih => exact ih
  | failed test cause stands rest ih => exact List.forall_mem_cons.mpr ⟨rfl, ih⟩

end Settles

/-- A targeted run that has run its tests by themselves, and how each was settled. -/
structure RunsEach {files : List String} (prepared : Preparation config files)
    (filter : PathFilter)
    (ended : Except EngineError (Diagnosed (List TestResult)) × List Exchange)
    (batch : List Exchange) (results : List TestResult) : Prop where
  said_eq : ended.2 = prepared.said ++ batch
  /-- Every selected test is run, in order. -/
  calls : batch.map (·.call) = (prepared.selected filter).map (runCall config)
  /-- The run ends well, and what it warns of about tests that could not be run is about
  those of the batch. -/
  settles : ∃ warnings, ended.1 = .ok ⟨results, warnings⟩ ∧
    Settles config batch results (warnings.filter (·.kind = .testExecutionFailed))

variable {engine : Engine} {files : List String}

/-- Preparing a run warns of no test that could not be run. -/
theorem Preparation.kind_of_mem_warnings (prepared : Preparation config files)
    {warning : Warning} (member : warning ∈ prepared.warnings) :
    warning.kind ≠ .testExecutionFailed := by
  rcases List.mem_append.mp member with lookup | searching
  · simp [kind_of_mem_failureWarnings lookup]
  · rcases kind_of_mem_searchWarnings searching with kind | kind <;> simp [kind]

section Run

variable (collaborators : Collaborators)
  (runner : engine.registry.hasRunner config.language = true)
  (analyzer : engine.registry.hasAnalyzer config.language = true) {filter : PathFilter}
  (narrowed : engine.pathFilter config = .ok filter) (impact : Impact)

include runner narrowed

/-- A full run runs no test by itself, whatever was said before. -/
theorem runTest_not_mem_orders_runTests {said : List Exchange}
    (quiet : orders said = []) (test : String) (settings : RunConfig) :
    .runTest test settings ∉ orders ((engine.runTests config).converse collaborators said).2 := by
  have ordered := orders_runTests collaborators said runner narrowed
  dsimp only at ordered
  cases answered : collaborators said (.discover config.language config.project) with
  | error cause =>
      rw [answered] at ordered
      rw [ordered.2, quiet]
      exact List.not_mem_nil
  | ok tests =>
      rw [answered] at ordered
      rw [ordered, quiet]
      simp

include analyzer

theorem runsEach_runTargeted
    (something : (preparation config collaborators [] impact.affected).selected filter ≠ []) :
    ∃ batch results, RunsEach (preparation config collaborators [] impact.affected) filter
      ((engine.runTargeted config impact).converse collaborators []) batch results := by
  let prepared := preparation config collaborators [] impact.affected
  let batch := collaborators.interview prepared.said
    ((prepared.selected filter).map (runCall config))
  have calls : batch.map (·.call) = (prepared.selected filter).map (runCall config) :=
    collaborators.map_call_interview _ _
  have settles := settles_of_runCalls calls
  have ran := converse_runTargeted_preparation collaborators [] runner analyzer narrowed impact
  dsimp only at ran
  rw [converse_runSelected_outcome _ _ _ _ something, List.nil_append] at ran
  refine ⟨batch, _, congrArg Prod.snd ran, calls, _, congrArg Prod.fst ran, ?_⟩
  have early : prepared.warnings.filter (·.kind = .testExecutionFailed) = [] :=
    List.filter_eq_nil_iff.mpr fun warning member => by
      simpa using prepared.kind_of_mem_warnings member
  have late : (failureWarnings .testExecutionFailed
        (batch.filterMap Exchange.testRun?)).filter (·.kind = .testExecutionFailed) =
      failureWarnings .testExecutionFailed (batch.filterMap Exchange.testRun?) :=
    List.filter_eq_self.mpr fun warning member => by
      simpa using settles.kind_of_mem warning member
  rw [List.filter_append, early, late, List.nil_append]
  exact settles

end Run

/-- A targeted run comes to run a test only if all is there that it needs, and something
is selected. -/
theorem selects_of_runTest {collaborators : Collaborators} {impact : Impact} {test : String}
    {settings : RunConfig}
    (reaches : .runTest test settings ∈
      orders ((engine.runTargeted config impact).converse collaborators []).2) :
    engine.registry.hasRunner config.language = true ∧
      engine.registry.hasAnalyzer config.language = true ∧
      ∃ filter, engine.pathFilter config = .ok filter ∧
        (preparation config collaborators [] impact.affected).selected filter ≠ [] := by
  let prepared := preparation config collaborators [] impact.affected
  cases runner : engine.registry.hasRunner config.language with
  | false =>
      rw [runTargeted_unrunnable runner] at reaches
      cases reaches
  | true =>
      cases narrowed : engine.pathFilter config with
      | error error =>
          rw [runTargeted_eq_stop runner narrowed impact] at reaches
          cases reaches
      | ok filter =>
          cases analyzer : engine.registry.hasAnalyzer config.language with
          | false =>
              rw [converse_runTargeted_unanalyzed collaborators [] runner analyzer narrowed
                impact] at reaches
              exact absurd reaches
                (runTest_not_mem_orders_runTests collaborators runner narrowed rfl _ _)
          | true =>
              refine ⟨rfl, rfl, filter, rfl, fun nothing => ?_⟩
              have full := converse_runTargeted_preparation collaborators [] runner analyzer
                narrowed impact
              dsimp only at full
              rw [nothing, converse_runSelected_nil, List.nil_append] at full
              rw [full] at reaches
              have quiet : orders prepared.said = [] :=
                orders_of_asks fun _ member => prepared.asks_of_mem member
              exact absurd reaches
                (runTest_not_mem_orders_runTests collaborators runner narrowed quiet _ _)

def AsksAlike (collaborators others : Collaborators) : Prop :=
  ∀ said call, call.asks = true → others said call = collaborators said call

theorem interview_congr {collaborators others : Collaborators}
    (alike : AsksAlike collaborators others) (said : List Exchange) {calls : List Call}
    (asks : ∀ call ∈ calls, call.asks = true) :
    others.interview said calls = collaborators.interview said calls := by
  induction calls generalizing said with
  | nil => rfl
  | cons call rest ih =>
      obtain ⟨first, later⟩ := List.forall_mem_cons.mp asks
      rw [Collaborators.interview, Collaborators.interview, alike said call first, ih _ later]

/-- A preparation hangs on the answers to what only asks. -/
theorem preparation_congr {collaborators others : Collaborators}
    (alike : AsksAlike collaborators others) (said : List Exchange) :
    preparation config others said files = preparation config collaborators said files := by
  have lookups : others.interview said (files.map (lookupCall config)) =
      collaborators.interview said (files.map (lookupCall config)) :=
    interview_congr alike said fun call member => by
      obtain ⟨file, _, rfl⟩ := List.mem_map.mp member
      rfl
  have searching (heard : List Exchange) :
      search others heard config = search collaborators heard config := by
    have checks (tests : List Test) (more : List Exchange) :
        others.interview more (tests.map (smokeCall config)) =
          collaborators.interview more (tests.map (smokeCall config)) :=
      interview_congr alike more fun call member => by
        obtain ⟨test, _, rfl⟩ := List.mem_map.mp member
        rfl
    simp only [search, discovery, alike heard (.discover config.language config.project) rfl,
      checks]
  simp only [preparation, lookups, searching]

/-- A targeted run that comes to run a test runs every selected test, ends well, and gives
one result for each: the runner's own, or the one that stands for a test that could not be
run, which alone is warned of. With any other answers to the runs the same tests are run,
and a test that is answered as before comes to the same result. -/
theorem runTargeted_settles_each (engine : Engine) (config : RunConfig) (impact : Impact)
    (collaborators : Collaborators)
    (reaches : ∃ test settings, .runTest test settings ∈
      orders ((engine.runTargeted config impact).converse collaborators []).2) :
    let prepared := preparation config collaborators [] impact.affected
    ∃ filter batch results, engine.pathFilter config = .ok filter ∧
      RunsEach prepared filter ((engine.runTargeted config impact).converse collaborators [])
        batch results ∧
      ∀ others : Collaborators, AsksAlike collaborators others →
        ∃ otherBatch otherResults,
          RunsEach prepared filter ((engine.runTargeted config impact).converse others [])
            otherBatch otherResults ∧
          otherBatch.map (·.call) = batch.map (·.call) ∧
          ∀ position : Nat, otherBatch[position]? = batch[position]? →
            otherResults[position]? = results[position]? := by
  intro prepared
  obtain ⟨test, settings, run⟩ := reaches
  obtain ⟨runner, analyzer, filter, narrowed, something⟩ := selects_of_runTest run
  obtain ⟨batch, results, ran⟩ :=
    runsEach_runTargeted collaborators runner analyzer narrowed impact something
  refine ⟨filter, batch, results, narrowed, ran, fun others alike => ?_⟩
  have same : preparation config others [] impact.affected = prepared :=
    preparation_congr alike []
  obtain ⟨otherBatch, otherResults, otherRan⟩ :=
    runsEach_runTargeted others runner analyzer narrowed impact (same ▸ something)
  rw [same] at otherRan
  obtain ⟨warnings, _, settles⟩ := ran.settles
  obtain ⟨otherWarnings, _, otherSettles⟩ := otherRan.settles
  refine ⟨otherBatch, otherResults, otherRan, otherRan.calls.trans ran.calls.symm, ?_⟩
  intro position answered
  rw [settles.getElem?_eq, otherSettles.getElem?_eq, answered]

/-- Three tests, of which the second cannot be run and the third fails; its failure to run
does not keep the third from its result. -/
theorem runTargeted_settles_each_broken :
    let engine : Engine := ⟨.ofLanguages ["go"] ["go"], .usual, false, Glob.nestingLimit⟩
    let config : RunConfig := .plain "go" "/shop" .affected
    let script : Script :=
      ⟨.error .cancelled, [], fun _ => .ok ["a_test.go", "sub/b_test.go", "c_test.go"],
        fun _ => .ok false⟩
    let collaborators : Collaborators := fun _ call =>
      match call with
      | .runTest test settings =>
          if test = "sub/b_test.go" then .error ⟨["spawn failed", "no such file"]⟩
          else if test = "c_test.go" then .ok (.failed test "go" "exit code 1")
          else script.answers (.runTest test settings)
      | other => script.answers other
    let impact : Impact := .ofChanged ["cart.go"]
    let ended := (engine.runTargeted config impact).converse collaborators []
    let prepared := preparation config collaborators [] impact.affected
    (∃ test settings, .runTest test settings ∈ orders ended.2) ∧
      ended.1.map (fun told => told.value.map fun result =>
        (result.success, result.path, result.name, result.error)) =
          .ok [(true, "a_test.go", "a_test.go", none),
            (false, "sub/b_test.go", "b_test.go", some "spawn failed: no such file"),
            (false, "c_test.go", "c_test.go", some "exit code 1")] ∧
      ended.1.map (fun told => told.warnings) =
        .ok [⟨.testExecutionFailed, some "sub/b_test.go", "spawn failed: no such file"⟩] ∧
      ∃ filter batch results, RunsEach prepared filter ended batch results := by
  intro engine config script collaborators impact ended prepared
  have ordered : orders ended.2 =
      ["a_test.go", "sub/b_test.go", "c_test.go"].map (runCall config) := rfl
  have reaches : ∃ test settings, .runTest test settings ∈ orders ended.2 :=
    ⟨"a_test.go", config, ordered ▸ List.mem_cons_self⟩
  obtain ⟨filter, batch, results, _, ran, _⟩ :=
    runTargeted_settles_each engine config impact collaborators reaches
  exact ⟨reaches, rfl, rfl, filter, batch, results, ran⟩

end Engine

end TestImpact
