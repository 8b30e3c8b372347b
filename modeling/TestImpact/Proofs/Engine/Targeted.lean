import TestImpact.Proofs.Engine.Runs

/-!
# Targeted runs

A targeted run looks up the affected files, searches for smoke tests if the scope
asks for them, and then runs what it selected, one test after the other: first the
smoke tests, then the others, no test twice. If nothing is selected it goes on as a
full run.
-/

namespace TestImpact.Engine

open Listing (firstOccurrences mem_firstOccurrences firstOccurrences_append
  nodup_firstOccurrences)
open Testing

/-- What is said in a targeted run before any test is run: one lookup for each
affected file, and the search for smoke tests. -/
structure Preparation (config : RunConfig) (files : List String) where
  lookups : List Exchange
  search : List Exchange
  looked_up : lookups.map (·.call) = files.map (lookupCall config)
  searched : SmokeSearch config search

namespace Preparation

variable {config : RunConfig} {files : List String} (prepared : Preparation config files)

def said : List Exchange := prepared.lookups ++ prepared.search

def warnings : List Warning :=
  failureWarnings .testLookupFailed (prepared.lookups.filterMap Exchange.lookup?) ++
    searchWarnings config prepared.search

/-- The smoke tests and the tests found, each once, as far as they are allowed. -/
def selected (filter : PathFilter) : List String :=
  (firstOccurrences (smokeFound prepared.search ++ testsFound prepared.lookups)).filter
    filter.allows

theorem mem_selected {filter : PathFilter} {test : String} :
    test ∈ prepared.selected filter ↔
      (test ∈ smokeFound prepared.search ∨ test ∈ testsFound prepared.lookups) ∧
        filter.allows test = true := by
  rw [selected, List.mem_filter, mem_firstOccurrences, List.mem_append]

theorem nodup_selected (filter : PathFilter) : (prepared.selected filter).Nodup :=
  (nodup_firstOccurrences _).filter _

/-- The smoke tests stand first, and the others follow in their order. -/
theorem selected_eq_append (filter : PathFilter) :
    prepared.selected filter =
      (firstOccurrences (smokeFound prepared.search)).filter filter.allows ++
        ((firstOccurrences (testsFound prepared.lookups)).filter
          (· ∉ smokeFound prepared.search)).filter filter.allows := by
  rw [selected, firstOccurrences_append, List.filter_append]

/-- All that is said is asked. -/
theorem asks_of_mem {exchange : Exchange} (member : exchange ∈ prepared.said) :
    exchange.call.asks = true := by
  rcases List.mem_append.mp member with found | searching
  · obtain ⟨file, _, question⟩ := exists_question prepared.looked_up found
    rw [← question]
    rfl
  · exact asks_of_mem_search prepared.searched searching

end Preparation

variable {engine : Engine} {config : RunConfig} (collaborators : Collaborators)
  (said : List Exchange)

theorem converse_runSelected_nil (affected : List String) (warnings : List Warning) :
    (engine.runSelected config affected warnings []).converse collaborators said =
      Prod.map (Except.map (Diagnosed.after (warnings ++ [selectionWarning affected]))) id
        ((engine.runTests config).converse collaborators said) := by
  rw [runSelected, if_pos List.isEmpty_nil]
  exact Plan.converse_bind_pure _ _ _ _

/-- Every selected test that is run gets a result, and every failure to run one a warning. -/
theorem converse_runSelected_outcome (affected : List String) (warnings : List Warning)
    {selected : List String} (something : selected ≠ []) :
    let ran := collaborators.interview said (selected.map (runCall config))
    let outcomes := ran.filterMap Exchange.testRun?
    (engine.runSelected config affected warnings selected).converse collaborators said =
      (.ok ⟨resultsOf config outcomes, warnings ++ failureWarnings .testExecutionFailed outcomes⟩,
        said ++ ran) := by
  intro ran outcomes
  rw [runSelected, if_neg (mt List.isEmpty_iff.mp something), Plan.converse_bind,
    converse_runEach]
  rfl

theorem converse_runSelected (affected : List String) (warnings : List Warning)
    {selected : List String} (something : selected ≠ []) :
    ∃ results, (engine.runSelected config affected warnings selected).converse collaborators
      said = (.ok results, said ++ collaborators.interview said
        (selected.map (runCall config))) :=
  ⟨_, converse_runSelected_outcome collaborators said affected warnings something⟩

variable (config) in
def preparation (files : List String) : Preparation config files :=
  let lookups := collaborators.interview said (files.map (lookupCall config))
  ⟨lookups, search collaborators (said ++ lookups) config,
    collaborators.map_call_interview _ _, smokeSearch_search collaborators (said ++ lookups)⟩

/-- A targeted run prepares itself and goes on with what it has selected. -/
theorem converse_runTargeted_preparation
    (runner : engine.registry.hasRunner config.language = true)
    (analyzer : engine.registry.hasAnalyzer config.language = true) {filter : PathFilter}
    (narrowed : engine.pathFilter config = .ok filter) (impact : Impact) :
    let prepared := preparation config collaborators said impact.affected
    (engine.runTargeted config impact).converse collaborators said =
      (engine.runSelected config impact.affected prepared.warnings
        (prepared.selected filter)).converse collaborators (said ++ prepared.said) := by
  intro prepared
  have ordered := converse_smokeFirst collaborators (said ++ prepared.lookups) runner analyzer
    (testsFound prepared.lookups)
  have looked : (lookUpTests config impact.affected).converse collaborators said =
      (.ok (prepared.lookups.filterMap Exchange.lookup?), said ++ prepared.lookups) :=
    converse_lookUpTests collaborators said config impact.affected
  have heard : said ++ prepared.lookups ++ prepared.search = said ++ prepared.said :=
    List.append_assoc _ _ _
  rw [runTargeted, requireRunner, if_pos runner, Plan.converse_bind, Plan.converse_done]
  dsimp only
  rw [narrowed, Plan.take, Plan.converse_bind, Plan.converse_done]
  dsimp only
  rw [if_pos analyzer, Plan.converse_bind, looked]
  dsimp only
  rw [Plan.converse_bind, foundTests_lookups, ordered, ← heard]
  dsimp only
  rw [PathFilter.narrow_eq_filter]
  rfl

/-- A targeted run prepares itself by lookups and a search, and goes on with what these
have selected. -/
theorem converse_runTargeted (runner : engine.registry.hasRunner config.language = true)
    (analyzer : engine.registry.hasAnalyzer config.language = true) {filter : PathFilter}
    (narrowed : engine.pathFilter config = .ok filter) (impact : Impact) :
    ∃ (prepared : Preparation config impact.affected) (warnings : List Warning),
      prepared.lookups =
        collaborators.interview said (impact.affected.map (lookupCall config)) ∧
      (engine.runTargeted config impact).converse collaborators said =
        (engine.runSelected config impact.affected warnings
          (prepared.selected filter)).converse collaborators (said ++ prepared.said) :=
  ⟨preparation config collaborators said impact.affected,
    (preparation config collaborators said impact.affected).warnings, rfl,
    converse_runTargeted_preparation collaborators said runner analyzer narrowed impact⟩

/-- If anything is selected, it is what a targeted run runs: the smoke tests first,
then the others, in the order of discovery and of the affected files, each once. -/
theorem orders_runTargeted (runner : engine.registry.hasRunner config.language = true)
    (analyzer : engine.registry.hasAnalyzer config.language = true) {filter : PathFilter}
    (narrowed : engine.pathFilter config = .ok filter) (impact : Impact) :
    ∃ (prepared : Preparation config impact.affected) (rest : List Exchange),
      ((engine.runTargeted config impact).converse collaborators []).2 = prepared.said ++ rest ∧
      (prepared.selected filter ≠ [] →
        (∃ results, ((engine.runTargeted config impact).converse collaborators []).1 =
          .ok results) ∧
        orders (prepared.said ++ rest) = (prepared.selected filter).map (runCall config) ∧
        (prepared.selected filter).Nodup ∧
        prepared.selected filter =
          (firstOccurrences (smokeFound prepared.search)).filter filter.allows ++
            ((firstOccurrences (testsFound prepared.lookups)).filter
              (· ∉ smokeFound prepared.search)).filter filter.allows) := by
  obtain ⟨prepared, warnings, _, continued⟩ :=
    converse_runTargeted collaborators [] runner analyzer narrowed impact
  rw [continued, List.nil_append]
  by_cases empty : prepared.selected filter = []
  · obtain ⟨rest, more⟩ := (engine.runSelected config impact.affected warnings
      (prepared.selected filter)).exists_converse_eq_append collaborators prepared.said
    exact ⟨prepared, rest, more, fun something => absurd empty something⟩
  · obtain ⟨results, ran⟩ :=
      converse_runSelected collaborators prepared.said impact.affected warnings empty
    let rest := collaborators.interview prepared.said
      ((prepared.selected filter).map (runCall config))
    have calls : rest.map (·.call) = (prepared.selected filter).map (runCall config) :=
      collaborators.map_call_interview _ _
    refine ⟨prepared, rest, ?_, fun _ => ⟨⟨results, ?_⟩, ?_, prepared.nodup_selected filter,
      prepared.selected_eq_append filter⟩⟩
    · rw [ran]
    · rw [ran]
    · rw [orders_append, orders_of_asks fun _ member => prepared.asks_of_mem member,
        orders_of_runCalls config calls, List.nil_append]

/-- A smoke test that also covers affected files, and a file that is found for them
but is not allowed. -/
theorem orders_runTargeted_overlap :
    let engine : Engine := ⟨.ofLanguages ["go"] ["go"], .usual, false, Glob.nestingLimit⟩
    let config : RunConfig :=
      { RunConfig.plain "go" "/shop" .affectedSmoke with excluded := ["*.txt"] }
    let filter : PathFilter :=
      ⟨[], [.ofTokens [.anything, .literal '.', .literal 't', .literal 'x', .literal 't']]⟩
    let script : Script :=
      ⟨.error .cancelled, [.ofPath "s_test.go" .unit, .ofPath "b_test.go" .unit],
        fun _ => .ok ["c_test.go", "s_test.go", "cases.txt"], fun test => .ok (test = "s_test.go")⟩
    let collaborators := Collaborators.fixed script.answers
    let impact : Impact := .ofChanged ["cart.go", "shop.go"]
    engine.registry.hasRunner config.language = true ∧
      engine.registry.hasAnalyzer config.language = true ∧ engine.pathFilter config = .ok filter ∧
      orders ((engine.runTargeted config impact).converse collaborators []).2 =
        ["s_test.go", "c_test.go"].map (runCall config) ∧
      ∃ (prepared : Preparation config impact.affected) (rest : List Exchange),
        ((engine.runTargeted config impact).converse collaborators []).2 =
          prepared.said ++ rest ∧
        (prepared.selected filter ≠ [] →
          (∃ results, ((engine.runTargeted config impact).converse collaborators []).1 =
            .ok results) ∧
          orders (prepared.said ++ rest) = (prepared.selected filter).map (runCall config) ∧
          (prepared.selected filter).Nodup ∧
          prepared.selected filter =
            (firstOccurrences (smokeFound prepared.search)).filter filter.allows ++
              ((firstOccurrences (testsFound prepared.lookups)).filter
                (· ∉ smokeFound prepared.search)).filter filter.allows) :=
  ⟨by decide, by decide, rfl, rfl, orders_runTargeted _ (by decide) (by decide) rfl _⟩

end TestImpact.Engine
