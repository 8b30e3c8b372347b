import TestImpact.Engine.Run
import TestImpact.Proofs.Engine.Conversation

/-!
# What is said in a run

Each part of a run is a conversation of a known form: the lookups of files, the
search for smoke tests, the tests run one by one, and the full run. What a part
gives back can be read off what was said in it.
-/

namespace TestImpact

open Listing (firstOccurrences foldl_collect_nil firstOccurrences_append_firstOccurrences)
open Testing

namespace Exchange

def lookup? : Exchange → Option (String × Except Failure (List String))
  | ⟨.findTests _ file _, answer⟩ => some (file, answer)
  | _ => none

def smokeCheck? : Exchange → Option (String × Except Failure Bool)
  | ⟨.isSmoke _ test, answer⟩ => some (test, answer)
  | _ => none

/-- A discovery asks about no test. -/
@[simp] theorem smokeChecks_discover_cons (language project : String)
    (answer : Except Failure (List Test)) (rest : List Exchange) :
    (⟨.discover language project, answer⟩ :: rest).filterMap smokeCheck? =
      rest.filterMap smokeCheck? := rfl

def testRun? : Exchange → Option (String × Except Failure TestResult)
  | ⟨.runTest test _, answer⟩ => some (test, answer)
  | _ => none

end Exchange

namespace Engine

def testsFound (said : List Exchange) : List String :=
  (said.filterMap Exchange.lookup?).flatMap fun lookup =>
    match lookup.2 with
    | .ok tests => tests
    | .error _ => []

def smokeFound (said : List Exchange) : List String :=
  (said.filterMap Exchange.smokeCheck?).filterMap fun check =>
    match check.2 with
    | .ok true => some check.1
    | _ => none

def orders (said : List Exchange) : List Call :=
  (said.map (·.call)).filter fun call => !call.asks

/-- Going through the lookups collects what they found, from the first to the last. -/
theorem foundTests_lookups (said : List Exchange) :
    foundTests (said.filterMap Exchange.lookup?) = firstOccurrences (testsFound said) := by
  rw [← foldl_collect_nil, foundTests, testsFound, List.foldl_flatMap]
  refine congrArg (fun step => List.foldl step [] _) ?_
  funext found lookup
  rcases lookup with ⟨file, _ | _⟩ <;> rfl

theorem smokeBefore_firstOccurrences (smoke targeted : List String) :
    smokeBefore smoke (firstOccurrences targeted) = firstOccurrences (smoke ++ targeted) := by
  rw [smokeBefore, foldl_collect_nil, firstOccurrences_append_firstOccurrences]

theorem confirmed_smokeChecks (said : List Exchange) :
    confirmed (said.filterMap Exchange.smokeCheck?) = smokeFound said := by
  rw [confirmed, smokeFound]
  congr 1
  funext check
  rcases check with ⟨test, _ | _ | _⟩ <;> rfl

@[simp] theorem smokeFound_nil : smokeFound [] = [] := rfl

@[simp] theorem smokeFound_discover_cons (language project : String)
    (answer : Except Failure (List Test)) (rest : List Exchange) :
    smokeFound (⟨.discover language project, answer⟩ :: rest) = smokeFound rest := rfl

@[simp] theorem orders_append (first second : List Exchange) :
    orders (first ++ second) = orders first ++ orders second := by
  simp [orders]

/-- Nothing is run by asking. -/
theorem orders_of_asks {said : List Exchange}
    (asks : ∀ exchange ∈ said, exchange.call.asks = true) : orders said = [] := by
  rw [orders, List.filter_eq_nil_iff]
  intro call member
  obtain ⟨exchange, heard, rfl⟩ := List.mem_map.mp member
  simp [asks exchange heard]

/-- Exchanges that follow a list of questions are each about one of them. -/
theorem exists_question {ι : Type} {heard : List Exchange} {items : List ι}
    {wanted : ι → Call} (calls : heard.map (·.call) = items.map wanted)
    {exchange : Exchange} (member : exchange ∈ heard) :
    ∃ item ∈ items, wanted item = exchange.call :=
  List.mem_map.mp (calls ▸ List.mem_map_of_mem member)

section Parts

variable (engine : Engine) (collaborators : Collaborators) (said : List Exchange)
  (config : RunConfig)

def lookupCall (file : String) : Call := .findTests config.language file config.project

def smokeCall (test : Test) : Call := .isSmoke config.language test.path

def runCall (test : String) : Call := .runTest test config

/-- Tests that are run one by one are all that is run. -/
theorem orders_of_runCalls {said : List Exchange} {tests : List String}
    (calls : said.map (·.call) = tests.map (runCall config)) :
    orders said = tests.map (runCall config) := by
  rw [orders, calls, List.filter_eq_self]
  intro call member
  obtain ⟨test, _, rfl⟩ := List.mem_map.mp member
  rfl

theorem converse_lookUpTests (files : List String) :
    (lookUpTests config files).converse collaborators said =
      (.ok ((collaborators.interview said (files.map (lookupCall config))).filterMap
          Exchange.lookup?),
        said ++ collaborators.interview said (files.map (lookupCall config))) :=
  Plan.converse_inTurn_request collaborators said (lookupCall config)
    (fun file answer => (file, answer)) Exchange.lookup? (fun _ _ => rfl) files

def LooksUp (find : String → Except Failure (List String)) : Prop :=
  ∀ said file, collaborators said (lookupCall config file) = find file

section Steady

variable {collaborators config} {find : String → Except Failure (List String)}
  (steady : LooksUp collaborators config find)

include steady

theorem lookups_interview (files : List String) :
    (collaborators.interview said (files.map (lookupCall config))).filterMap Exchange.lookup? =
      files.map fun file => (file, find file) := by
  induction files generalizing said with
  | nil => rfl
  | cons file rest ih =>
      let exchange : Exchange :=
        ⟨lookupCall config file, collaborators said (lookupCall config file)⟩
      have first : exchange.lookup? = some (file, find file) :=
        congrArg (fun answer => some (file, answer)) (steady said file)
      rw [List.map_cons, Collaborators.interview, List.filterMap_cons_some first, ih,
        List.map_cons]

theorem testsFound_interview (files : List String) :
    testsFound (collaborators.interview said (files.map (lookupCall config))) =
      files.flatMap fun file => (find file).toOption.getD [] := by
  rw [testsFound, lookups_interview said steady, List.flatMap_map]
  refine congrArg (files.flatMap ·) (funext fun file => ?_)
  cases find file <;> rfl

end Steady

theorem converse_checkEach (tests : List Test) :
    (checkEach config.language tests).converse collaborators said =
      (.ok ((collaborators.interview said (tests.map (smokeCall config))).filterMap
          Exchange.smokeCheck?),
        said ++ collaborators.interview said (tests.map (smokeCall config))) :=
  Plan.converse_inTurn_request collaborators said (smokeCall config)
    (fun test answer => (test.path, answer)) Exchange.smokeCheck? (fun _ _ => rfl) tests

theorem converse_runEach (tests : List String) :
    (runEach config tests).converse collaborators said =
      (.ok ((collaborators.interview said (tests.map (runCall config))).filterMap
          Exchange.testRun?),
        said ++ collaborators.interview said (tests.map (runCall config))) :=
  Plan.converse_inTurn_request collaborators said (runCall config)
    (fun test answer => (test, answer)) Exchange.testRun? (fun _ _ => rfl) tests

def discovery (language project : String) : Exchange :=
  ⟨.discover language project, collaborators said (.discover language project)⟩

theorem converse_discover (language project : String) :
    (discover language project).converse collaborators said =
      match collaborators said (.discover language project) with
      | .ok tests => (.ok tests, said ++ [discovery collaborators said language project])
      | .error cause =>
          (.error (.discovery cause),
            said ++ [discovery collaborators said language project]) := by
  rw [discover, Plan.converse_bind, Plan.converse_request, discovery]
  cases collaborators said (.discover language project) <;> rfl

/-- How a targeted run searches for smoke tests. -/
inductive SmokeSearch : List Exchange → Prop where
  | unwanted (plain : config.scope.includesSmoke = false) : SmokeSearch []
  | undiscovered (wanted : config.scope.includesSmoke = true) (cause : Failure) :
      SmokeSearch [⟨.discover config.language config.project, .error cause⟩]
  | checked (wanted : config.scope.includesSmoke = true) (tests : List Test)
      (checks : List Exchange)
      (calls : checks.map (·.call) = tests.map (smokeCall config)) :
      SmokeSearch (⟨.discover config.language config.project, .ok tests⟩ :: checks)

variable {engine config}

/-- A search for smoke tests only asks. -/
theorem asks_of_mem_search {search : List Exchange} (searched : SmokeSearch config search)
    {exchange : Exchange} (member : exchange ∈ search) : exchange.call.asks = true := by
  cases searched with
  | unwanted => cases member
  | undiscovered wanted cause =>
      obtain rfl := List.mem_singleton.mp member
      rfl
  | checked wanted tests checks calls =>
      rcases List.mem_cons.mp member with rfl | check
      · rfl
      · obtain ⟨test, _, question⟩ := exists_question calls check
        rw [← question]
        rfl

/-- Without the scope that adds them, no smoke tests are searched for. -/
theorem search_eq_nil (scope : config.scope = .affected) {search : List Exchange}
    (searched : SmokeSearch config search) : search = [] := by
  have plain : config.scope.includesSmoke = false := by rw [scope]; rfl
  cases searched with
  | unwanted => rfl
  | undiscovered wanted | checked wanted => exact absurd wanted (by simp [plain])

theorem converse_discoverTests (runner : engine.registry.hasRunner config.language = true)
    {tests : List Test}
    (answered : collaborators said (.discover config.language config.project) = .ok tests) :
    (engine.discoverTests config.project config.language).converse collaborators said =
      (.ok (.ofProject config.language config.project tests),
        said ++ [discovery collaborators said config.language config.project]) := by
  simp [discoverTests, requireRunner, runner, Plan.converse_bind, converse_discover, answered]

theorem converse_discoverTests_error
    (runner : engine.registry.hasRunner config.language = true) {cause : Failure}
    (failed : collaborators said (.discover config.language config.project) = .error cause) :
    (engine.discoverTests config.project config.language).converse collaborators said =
      (.error (.discovery cause),
        said ++ [discovery collaborators said config.language config.project]) := by
  simp [discoverTests, requireRunner, runner, Plan.converse_bind, converse_discover, failed]

/-- Once the tests of a project are known, each of them is asked about. -/
theorem converse_findSmokeTests (runner : engine.registry.hasRunner config.language = true)
    (analyzer : engine.registry.hasAnalyzer config.language = true) {tests : List Test}
    (answered : collaborators said (.discover config.language config.project) = .ok tests) :
    let first := discovery collaborators said config.language config.project
    let checks := collaborators.interview (said ++ [first]) (tests.map (smokeCall config))
    (engine.findSmokeTests config.project config.language).converse collaborators said =
      (.ok ⟨smokeFound checks,
          failureWarnings .smokeCheckFailed (checks.filterMap Exchange.smokeCheck?)⟩,
        said ++ first :: checks) := by
  intro first checks
  rw [findSmokeTests, requireAnalyzer, if_pos analyzer, Plan.converse_bind, Plan.converse_done]
  dsimp only
  rw [Plan.converse_bind, converse_discoverTests collaborators said runner answered]
  dsimp only
  rw [Plan.converse_bind, converse_checkEach]
  simp [confirmed_smokeChecks, Suite.ofProject, checks, first]

variable (config) in
def search : List Exchange :=
  if config.scope.includesSmoke then
    let first := discovery collaborators said config.language config.project
    match collaborators said (.discover config.language config.project) with
    | .ok tests =>
        first :: collaborators.interview (said ++ [first]) (tests.map (smokeCall config))
    | .error _ => [first]
  else []

variable (config) in
def searchWarnings (searched : List Exchange) : List Warning :=
  match searched with
  | ⟨.discover _ _, .error cause⟩ :: _ => [smokeWarning config.language (.discovery cause)]
  | _ => failureWarnings .smokeCheckFailed (searched.filterMap Exchange.smokeCheck?)

theorem smokeSearch_search : SmokeSearch config (search collaborators said config) := by
  rw [search]
  split
  · rename_i wanted
    cases answered : collaborators said (.discover config.language config.project) with
    | ok tests =>
        rw [discovery, answered]
        exact .checked wanted tests _ (collaborators.map_call_interview _ _)
    | error cause =>
        rw [discovery, answered]
        exact .undiscovered wanted cause
  · rename_i unwanted
    exact .unwanted (Bool.eq_false_iff.mpr unwanted)

/-- What a targeted run does with a search for smoke tests: those found stand before
the other tests. No search stops the run. -/
theorem converse_smokeFirst (runner : engine.registry.hasRunner config.language = true)
    (analyzer : engine.registry.hasAnalyzer config.language = true) (targeted : List String) :
    let searched := search collaborators said config
    (engine.smokeFirst config (firstOccurrences targeted)).converse collaborators said =
      (.ok ⟨firstOccurrences (smokeFound searched ++ targeted), searchWarnings config searched⟩,
        said ++ searched) := by
  intro searched
  cases wanted : config.scope.includesSmoke with
  | false =>
      have none : searched = [] := if_neg (by simp [wanted])
      rw [none]
      simp [smokeFirst, wanted, Diagnosed.clean, searchWarnings, failureWarnings]
  | true =>
      have wants : searched = _ := if_pos wanted
      cases answered : collaborators said (.discover config.language config.project) with
      | error cause =>
          have stopped := converse_discoverTests_error collaborators said runner answered
          rw [answered] at wants
          rw [wants]
          simp [smokeFirst, wanted, Plan.converse_bind, findSmokeTests, requireAnalyzer, analyzer,
            stopped, discovery, answered, searchWarnings]
      | ok tests =>
          have found := converse_findSmokeTests collaborators said runner analyzer answered
          rw [answered] at wants
          rw [smokeFirst, if_pos wanted, Plan.converse_bind, Plan.converse_attempt, found, wants]
          simp [smokeBefore_firstOccurrences, discovery, answered, searchWarnings]

/-- A full run that cannot discover the tests stops before any is run. -/
theorem converse_runTests_error (runner : engine.registry.hasRunner config.language = true)
    {filter : PathFilter} (narrowed : engine.pathFilter config = .ok filter) {cause : Failure}
    (failed : collaborators said (.discover config.language config.project) = .error cause) :
    (engine.runTests config).converse collaborators said =
      (.error (.discovery cause),
        said ++ [discovery collaborators said config.language config.project]) := by
  simp [runTests, requireRunner, runner, narrowed, Plan.take, Plan.converse_bind,
    converse_discover, failed]

def suiteExchange (suite : Suite) : Exchange :=
  ⟨.runSuite suite, collaborators said (.runSuite suite)⟩

/-- A full run hands the selected tests to the runner in one batch. -/
theorem converse_runTests (runner : engine.registry.hasRunner config.language = true)
    {filter : PathFilter} (narrowed : engine.pathFilter config = .ok filter) {tests : List Test}
    (answered : collaborators said (.discover config.language config.project) = .ok tests) :
    let first := discovery collaborators said config.language config.project
    let suite := selectedSuite config filter tests
    (engine.runTests config).converse collaborators said =
      (match collaborators (said ++ [first]) (.runSuite suite) with
        | .ok results => .ok (.clean results)
        | .error cause => .error (.execution cause),
        said ++ [first, suiteExchange collaborators (said ++ [first]) suite]) := by
  intro first suite
  simp only [runTests, requireRunner, runner, if_true, narrowed, Plan.take, Plan.converse_bind,
    Plan.converse_done, Plan.converse_ask, converse_discover, answered, Plan.converse_request]
  cases replied : collaborators (said ++ [discovery collaborators said config.language
      config.project]) (.runSuite (selectedSuite config filter tests)) <;>
    simp [suiteExchange, first, suite, replied]

/-- All that a full run runs is the suite of the selected tests, once these are known. -/
theorem orders_runTests (runner : engine.registry.hasRunner config.language = true)
    {filter : PathFilter} (narrowed : engine.pathFilter config = .ok filter) :
    let ended := (engine.runTests config).converse collaborators said
    match collaborators said (.discover config.language config.project) with
    | .error cause => ended.1 = .error (.discovery cause) ∧ orders ended.2 = orders said
    | .ok tests => orders ended.2 =
        orders said ++ [.runSuite (selectedSuite config filter tests)] := by
  intro ended
  cases answered : collaborators said (.discover config.language config.project) with
  | error cause =>
      have stopped : ended = _ :=
        converse_runTests_error collaborators said runner narrowed answered
      rw [stopped, orders_append]
      exact ⟨rfl, List.append_nil _⟩
  | ok tests =>
      have ran : ended = _ := converse_runTests collaborators said runner narrowed answered
      dsimp only
      rw [ran, orders_append]
      rfl

end Parts

section Unrunnable

variable {engine : Engine} {config : RunConfig}
  (unrunnable : engine.registry.hasRunner config.language = false)

include unrunnable

/-- Without a runner a run ends before the first call. -/
theorem runTests_unrunnable : engine.runTests config = .stop (.noRunner config.language) := by
  rw [runTests, requireRunner, if_neg (Bool.eq_false_iff.mp unrunnable)]
  rfl

theorem runTargeted_unrunnable (impact : Impact) :
    engine.runTargeted config impact = .stop (.noRunner config.language) := by
  rw [runTargeted, requireRunner, if_neg (Bool.eq_false_iff.mp unrunnable)]
  rfl

end Unrunnable

end Engine

end TestImpact
