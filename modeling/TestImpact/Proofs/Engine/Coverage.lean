import Mathlib
import TestImpact.Proofs.Affected.Extent
import TestImpact.Proofs.Engine.Targeted

/-!
# Tests reported and tests run

An impact names the tests that cover it; a targeted run does not read them there but looks
the affected files up once more. If lookups find the same at all times and all affected
files are of the language of the run, the two agree: a targeted run without patterns and
without a smoke search runs what the impact names, in the same order, and goes on as a
full run if the impact names nothing.
-/

namespace TestImpact

open Listing (firstOccurrences)
open Testing

/-- Only what is done for the items at hand counts. -/
theorem Plan.inTurn_congr {α β : Type} {first second : α → Plan β} {items : List α}
    (same : ∀ item ∈ items, first item = second item) :
    inTurn first items = inTurn second items := by
  induction items with
  | nil => rfl
  | cons item rest ih =>
      obtain ⟨head, later⟩ := List.forall_mem_cons.mp same
      rw [inTurn, inTurn, head, ih later]

namespace Engine

def InLanguage (config : RunConfig) (file : String) : Prop :=
  (SourceLanguage.ofPath? file).map (·.name) = some config.language

/-- A targeted run that asks its questions and then, because nothing was selected, goes on
as the full run. -/
def FallsBack (engine : Engine) (config : RunConfig) (impact : Impact)
    (collaborators : Collaborators) (said : List Exchange) : Prop :=
  ∃ asked earlier, (∀ exchange ∈ asked, exchange.call.asks = true) ∧
    (engine.runTargeted config impact).converse collaborators said =
      Prod.map (Except.map (Diagnosed.after (earlier ++ [selectionWarning impact.affected]))) id
        ((engine.runTests config).converse collaborators (said ++ asked))

variable {engine : Engine} {config : RunConfig}

theorem lookUp_eq_request (analyzer : engine.registry.hasAnalyzer config.language = true)
    {file : String} (inLanguage : InLanguage config file) :
    engine.lookUp config.project file =
      (do return (file, .answered (← Plan.request (lookupCall config file)))) := by
  rw [InLanguage, Option.map_eq_some_iff] at inLanguage
  obtain ⟨language, told, name⟩ := inLanguage
  rw [lookUp, told]
  dsimp only
  rw [name, if_pos analyzer]
  rfl

/-- Without a runner a targeted run ends before the first call. -/
theorem converse_runTargeted_unrunnable (collaborators : Collaborators) (said : List Exchange)
    (unrunnable : engine.registry.hasRunner config.language = false) (impact : Impact) :
    (engine.runTargeted config impact).converse collaborators said =
      (.error (.noRunner config.language), said) := by
  rw [runTargeted_unrunnable unrunnable]
  exact Plan.converse_stop collaborators said _

/-- What a full run orders is no list of single tests. -/
theorem eq_nil_of_fallsBack {collaborators : Collaborators} {said : List Exchange}
    {impact : Impact} {filter : PathFilter}
    (runner : engine.registry.hasRunner config.language = true)
    (narrowed : engine.pathFilter config = .ok filter)
    (falls : FallsBack engine config impact collaborators said) {tests : List String}
    (ordered : orders ((engine.runTargeted config impact).converse collaborators said).2 =
      orders said ++ tests.map (runCall config)) : tests = [] := by
  obtain ⟨asked, earlier, asks, went⟩ := falls
  have full := orders_runTests collaborators (said ++ asked) runner narrowed
  rw [went, Prod.map_snd, id] at ordered
  dsimp only at full
  rw [orders_append, orders_of_asks asks, List.append_nil] at full
  cases answered : collaborators (said ++ asked) (.discover config.language config.project) with
  | error cause =>
      rw [answered] at full
      dsimp only at full
      rw [full.2] at ordered
      exact List.map_eq_nil_iff.mp (List.self_eq_append_right.mp ordered)
  | ok found =>
      rw [answered] at full
      dsimp only at full
      rw [full] at ordered
      cases tests with
      | nil => rfl
      | cons test rest => cases List.append_cancel_left ordered

/-- A run without patterns may run every test. -/
theorem pathFilter_of_unpatterned (engine : Engine) (included : config.included = [])
    (excluded : config.excluded = []) : engine.pathFilter config = .ok ⟨[], []⟩ := by
  rw [pathFilter, PathFilter.ofConfig, included, excluded]
  rfl

/-- The tests that were found for a file can be read off the coverage. -/
theorem get?_coverageOf (find : String → Except Failure (List String)) {files : List String}
    {file : String} (member : file ∈ files) :
    (coverageOf (files.map fun file => (file, .answered (find file)))).get? file =
      (find file).toOption := by
  rw [get?_coverageOf_map (fun file => .answered (find file)), if_pos member]
  cases find file <;> rfl

/-- An impact names the tests that were found for its files. -/
theorem tests_of_lookups {impact : Impact} {find : String → Except Failure (List String)}
    (covered : impact.coverage =
      coverageOf (impact.affected.map fun file => (file, .answered (find file)))) :
    impact.tests =
      firstOccurrences (impact.affected.flatMap fun file => (find file).toOption.getD []) := by
  rw [Impact.tests, covered]
  refine congrArg firstOccurrences (List.flatMap_congr fun file member => ?_)
  exact congrArg (·.getD []) (get?_coverageOf find member)

section Steady

variable {collaborators : Collaborators} {find : String → Except Failure (List String)}
  (steady : LooksUp collaborators config find) (said : List Exchange)

include steady

theorem converse_lookUp_inLanguage
    (analyzer : engine.registry.hasAnalyzer config.language = true) {files : List String}
    (inLanguage : ∀ file ∈ files, InLanguage config file) :
    (Plan.inTurn (engine.lookUp config.project) files).converse collaborators said =
      (.ok (files.map fun file => (file, .answered (find file))),
        said ++ collaborators.interview said (files.map (lookupCall config))) := by
  let read (exchange : Exchange) : Option (String × Lookup) :=
    exchange.lookup?.map fun looked => (looked.1, .answered looked.2)
  rw [Plan.inTurn_congr fun file member => lookUp_eq_request analyzer (inLanguage file member),
    Plan.converse_inTurn_request collaborators said (lookupCall config)
      (fun file answer => (file, Lookup.answered answer)) read (fun _ _ => rfl),
    ← List.map_filterMap, lookups_interview said steady, List.map_map]
  rfl

/-- Without patterns and without a search, what was found is what is selected. -/
theorem selected_unpatterned (scope : config.scope = .affected) (files : List String) :
    (preparation config collaborators said files).selected ⟨[], []⟩ =
      firstOccurrences (files.flatMap fun file => (find file).toOption.getD []) := by
  let prepared := preparation config collaborators said files
  have unsearched : prepared.search = [] := search_eq_nil scope prepared.searched
  have found : testsFound prepared.lookups = _ := testsFound_interview said steady files
  rw [Preparation.selected, unsearched, found, smokeFound_nil, List.nil_append,
    List.filter_eq_self]
  exact fun _ _ => rfl

/-- A targeted run without patterns runs what was found, and falls back exactly if nothing
was. -/
theorem runTargeted_found (runner : engine.registry.hasRunner config.language = true)
    (analyzer : engine.registry.hasAnalyzer config.language = true)
    (scope : config.scope = .affected) (included : config.included = [])
    (excluded : config.excluded = []) (impact : Impact) {tests : List String}
    (named : tests =
      firstOccurrences (impact.affected.flatMap fun file => (find file).toOption.getD [])) :
    let targeted := (engine.runTargeted config impact).converse collaborators said
    (tests ≠ [] → (∃ results, targeted.1 = .ok results) ∧
        orders targeted.2 = orders said ++ tests.map (runCall config)) ∧
      (FallsBack engine config impact collaborators said ↔ tests = []) := by
  intro targeted
  let prepared := preparation config collaborators said impact.affected
  have narrowed := engine.pathFilter_of_unpatterned included excluded
  have went : targeted = _ :=
    converse_runTargeted_preparation collaborators said runner analyzer narrowed impact
  rw [selected_unpatterned steady said scope, ← named] at went
  have runs (something : tests ≠ []) : (∃ results, targeted.1 = .ok results) ∧
      orders targeted.2 = orders said ++ tests.map (runCall config) := by
    obtain ⟨results, ran⟩ := converse_runSelected collaborators (said ++ prepared.said)
      impact.affected prepared.warnings something
    rw [went, ran]
    refine ⟨⟨results, rfl⟩, ?_⟩
    rw [orders_append, orders_append, orders_of_asks fun _ member => prepared.asks_of_mem member,
      orders_of_runCalls config (Collaborators.map_call_interview _ _ _), List.append_nil]
  refine ⟨runs, fun falls => ?_, fun nothing => ?_⟩
  · by_contra something
    exact something (eq_nil_of_fallsBack runner narrowed falls (runs something).2)
  · refine ⟨prepared.said, prepared.warnings, fun _ member => prepared.asks_of_mem member, ?_⟩
    rw [nothing, converse_runSelected_nil] at went
    exact went

end Steady

/-- The tests that an impact names are those found for its files, each once; a targeted run
for it runs just these, in this order, or falls back if there are none. Without a runner it
runs nothing. -/
theorem reported_and_run_agree (engine : Engine) (config : RunConfig)
    {collaborators : Collaborators} {find : String → Except Failure (List String)}
    (steady : LooksUp collaborators config find)
    (analyzer : engine.registry.hasAnalyzer config.language = true) (said : List Exchange)
    {graph : SymbolGraph} (delivered : collaborators said (.graph config.project) = .ok graph)
    (changed : List String) :
    ∃ impact warnings heard,
      (engine.buildImpact changed config.project).converse collaborators said =
        (.ok ⟨impact, warnings⟩, heard) ∧
      ((∀ file ∈ impact.affected, InLanguage config file) →
        impact.tests =
            firstOccurrences (impact.affected.flatMap fun file => (find file).toOption.getD []) ∧
          (config.scope = .affected → config.included = [] → config.excluded = [] →
            ∀ later : List Exchange,
              let targeted := (engine.runTargeted config impact).converse collaborators later
              (engine.registry.hasRunner config.language = true →
                (impact.tests ≠ [] → (∃ results, targeted.1 = .ok results) ∧
                  orders targeted.2 = orders later ++ impact.tests.map (runCall config)) ∧
                (FallsBack engine config impact collaborators later ↔ impact.tests = [])) ∧
              (engine.registry.hasRunner config.language = false →
                targeted = (.error (.noRunner config.language), later)))) := by
  let reached := impactOf changed ((firstOccurrences changed).map (engine.reachedFrom graph))
  obtain ⟨lookups, heard, ended, _⟩ := Plan.converse_inTurn_ok collaborators
    (said ++ [graphExchange collaborators said config.project])
    (fun file heard => engine.converse_lookUp collaborators heard config.project file)
    reached.affected
  let impact : Impact := { reached with coverage := coverageOf lookups }
  refine ⟨impact, _, _, engine.converse_buildImpact_lookups collaborators said changed delivered
    ended, fun inLanguage => ?_⟩
  have listed : lookups = reached.affected.map fun file => (file, .answered (find file)) := by
    have told := converse_lookUp_inLanguage steady
      (said ++ [graphExchange collaborators said config.project]) analyzer inLanguage
    exact Except.ok.inj (congrArg Prod.fst (ended.symm.trans told))
  have covered : impact.coverage = _ := congrArg coverageOf listed
  have named := tests_of_lookups covered
  refine ⟨named, fun scope included excluded later => ⟨fun runner => ?_, fun unrunnable => ?_⟩⟩
  · exact runTargeted_found steady later runner analyzer scope included excluded impact named
  · exact converse_runTargeted_unrunnable collaborators later unrunnable impact

/-- A test that is found for both affected files, and twice for each. -/
theorem reported_and_run_agree_overlap :
    let engine : Engine := ⟨.ofLanguages ["go"] ["go"], .usual, true, Glob.nestingLimit⟩
    let config : RunConfig := .plain "go" "/shop" .affected
    let snapshot : Snapshot :=
      ⟨[⟨"a", "", .function, "a.go", 1⟩, ⟨"b", "", .function, "b.go", 1⟩], [⟨"a", "b", .calls⟩]⟩
    let find (file : String) : Except Failure (List String) :=
      .ok ["shop_test.go", file ++ "_test.go", "shop_test.go"]
    let script : Script := ⟨.ok (.ofSnapshot snapshot), [], find, fun _ => .ok false⟩
    let collaborators := Collaborators.fixed script.answers
    let built := (engine.buildImpact ["a.go"] config.project).converse collaborators []
    LooksUp collaborators config find ∧ engine.registry.hasAnalyzer config.language = true ∧
      engine.registry.hasRunner config.language = true ∧
      collaborators [] (.graph config.project) = .ok (.ofSnapshot snapshot) ∧
      ∃ impact warnings, built.1 = .ok ⟨impact, warnings⟩ ∧
        (∀ file ∈ impact.affected, InLanguage config file) ∧
        impact.tests = ["shop_test.go", "a.go_test.go", "b.go_test.go"] ∧
        orders ((engine.runTargeted config impact).converse collaborators []).2 =
          ["shop_test.go", "a.go_test.go", "b.go_test.go"].map (runCall config) ∧
        ¬ FallsBack engine config impact collaborators [] := by
  intro engine config snapshot find script collaborators built
  have steady : LooksUp collaborators config find := fun _ _ => rfl
  have analyzer : engine.registry.hasAnalyzer config.language = true := by decide
  have runner : engine.registry.hasRunner config.language = true := by decide
  obtain ⟨impact, warnings, heard, ended, agree⟩ :=
    reported_and_run_agree engine config steady analyzer [] rfl ["a.go"]
  have affected : built.1.toOption.map (·.value.affected) = some ["a.go", "b.go"] := by cbv
  have listed : impact.affected = ["a.go", "b.go"] := by
    have same : built = _ := ended
    rw [same] at affected
    exact Option.some.inj affected
  have inLanguage : ∀ file ∈ impact.affected, InLanguage config file := by
    rw [listed]
    intro file member
    change (SourceLanguage.ofPath? file).map (·.name) = some "go"
    simp only [List.mem_cons, List.not_mem_nil, or_false] at member
    rcases member with rfl | rfl <;> cbv
  obtain ⟨named, runs⟩ := agree inLanguage
  have tests : impact.tests = ["shop_test.go", "a.go_test.go", "b.go_test.go"] := by
    rw [named, listed]
    cbv
  obtain ⟨ordered, falls⟩ := (runs rfl rfl rfl []).1 runner
  refine ⟨steady, analyzer, runner, rfl, impact, warnings, congrArg Prod.fst ended, inLanguage,
    tests, ?_, fun fallen => ?_⟩
  · rw [(ordered (by simp [tests])).2, tests]
    rfl
  · exact absurd (falls.mp fallen) (by simp [tests])

/-- A test that was found for the change in a language that no runner is registered for. -/
theorem reported_but_not_run :
    let engine : Engine := ⟨.ofLanguages [] ["go"], .usual, false, Glob.nestingLimit⟩
    let config : RunConfig := .plain "go" "/shop" .affected
    let snapshot : Snapshot := ⟨[⟨"a", "", .function, "cart.go", 1⟩], []⟩
    let script : Script :=
      ⟨.ok (.ofSnapshot snapshot), [], fun _ => .ok ["cart_test.go"], fun _ => .ok false⟩
    let collaborators := Collaborators.fixed script.answers
    let built := (engine.buildImpact ["cart.go"] config.project).converse collaborators []
    let impact : Impact :=
      ⟨["cart.go"], ["cart.go"], .ofList [("cart.go", [])], .ofList [("cart.go", ["cart_test.go"])]⟩
    let targeted := (engine.runTargeted config impact).converse collaborators built.2
    LooksUp collaborators config script.covering ∧
      engine.registry.hasAnalyzer config.language = true ∧
      collaborators [] (.graph config.project) = .ok (.ofSnapshot snapshot) ∧
      built.1 = .ok ⟨impact, []⟩ ∧ (∀ file ∈ impact.affected, InLanguage config file) ∧
      config.scope = .affected ∧ config.included = [] ∧ config.excluded = [] ∧
      impact.tests = ["cart_test.go"] ∧
      targeted = (.error (.noRunner config.language), built.2) ∧
      ¬ (impact.tests ≠ [] →
        orders targeted.2 = orders built.2 ++ impact.tests.map (runCall config)) := by
  intro engine config snapshot script collaborators built impact targeted
  have ended : built.1 = .ok ⟨impact, []⟩ := by cbv
  have tests : impact.tests = ["cart_test.go"] := by decide
  have stopped : targeted = _ :=
    converse_runTargeted_unrunnable collaborators built.2 (by decide) impact
  refine ⟨fun _ _ => rfl, by decide, rfl, ended, ?_, rfl, rfl, rfl, tests, stopped, fun runs => ?_⟩
  · intro file member
    obtain rfl := List.mem_singleton.mp member
    change (SourceLanguage.ofPath? "cart.go").map (·.name) = some "go"
    cbv
  · have ordered := runs (by simp [tests])
    rw [stopped, tests] at ordered
    exact absurd (List.self_eq_append_right.mp ordered) (by simp)

end Engine

end TestImpact
