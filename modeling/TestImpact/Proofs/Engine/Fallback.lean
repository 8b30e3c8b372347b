import TestImpact.Proofs.Engine.Targeted

/-!
# Falling back to a full run

A targeted run that cannot know which tests cover a change, or finds none that it may
run, goes on as the full run: with answers that hang on the calls alone it runs the same
suite and ends in the same way, and only its warnings tell the difference. In every
other case it runs selected tests one by one and never the suite. So it does not end
well without having run anything.
-/

namespace TestImpact

open Testing

/-- Answers that hang on the calls alone make the same of a plan whatever was said. -/
theorem Plan.converse_fixed {α : Type} (plan : Plan α) (answers : Answers Id)
    (said : List Exchange) :
    plan.converse (.fixed answers) said =
      ((plan.converse (.fixed answers) []).1, said ++ (plan.converse (.fixed answers) []).2) := by
  induction plan generalizing said with
  | done value => simp
  | stop error => simp
  | checkpoint next ih =>
      rw [converse_checkpoint, converse_checkpoint]
      exact ih false said
  | call request next ih =>
      let exchange : Exchange := ⟨request, answers request⟩
      have later := ih (answers request) (said ++ [exchange])
      have first := ih (answers request) [exchange]
      rw [converse_call, converse_call, List.nil_append]
      refine later.trans (Prod.ext ?_ ?_)
      · exact (congrArg Prod.fst first).symm
      · rw [List.append_assoc]
        exact congrArg (said ++ ·) (congrArg Prod.snd first).symm

/-- Whether a warning tells why the tests of a change were not run one by one. -/
def Warning.tellsOfFallback (warning : Warning) : Bool :=
  warning.kind = .analyzerMissing || warning.kind = .noTargetedTests

namespace Engine

theorem kind_of_mem_failureWarnings {α : Type} {kind : WarningKind}
    {outcomes : List (String × Except Failure α)} {warning : Warning}
    (member : warning ∈ failureWarnings kind outcomes) : warning.kind = kind := by
  obtain ⟨⟨subject, answer⟩, _, told⟩ := List.mem_filterMap.mp member
  cases answer with
  | ok value => cases told
  | error cause =>
      cases told
      rfl

variable {engine : Engine} {config : RunConfig} {files : List String}

theorem kind_of_mem_searchWarnings {searched : List Exchange} {warning : Warning}
    (member : warning ∈ searchWarnings config searched) :
    warning.kind = .smokeDiscoveryFailed ∨ warning.kind = .smokeCheckFailed := by
  unfold searchWarnings at member
  split at member
  · obtain rfl := List.mem_singleton.mp member
    exact Or.inl rfl
  · exact Or.inr (kind_of_mem_failureWarnings member)

/-- Preparing a run tells of no fall back. -/
theorem Preparation.tells_of_mem_warnings (prepared : Preparation config files)
    {warning : Warning} (member : warning ∈ prepared.warnings) :
    warning.tellsOfFallback = false := by
  rcases List.mem_append.mp member with lookup | searching
  · simp [Warning.tellsOfFallback, kind_of_mem_failureWarnings lookup]
  · rcases kind_of_mem_searchWarnings searching with kind | kind <;>
      simp [Warning.tellsOfFallback, kind]

variable (engine) in
def fallbackWarnings (prepared : Preparation config files) : List Warning :=
  if engine.registry.hasAnalyzer config.language then
    prepared.warnings ++ [selectionWarning files]
  else [analyzerWarning config.language]

/-- Exactly the last of these warnings tells of the fall back. -/
theorem fallbackWarnings_eq_append (prepared : Preparation config files) :
    ∃ earlier last, engine.fallbackWarnings prepared = earlier ++ [last] ∧
      last.kind = (if engine.registry.hasAnalyzer config.language then .noTargetedTests
        else .analyzerMissing) ∧
      ∀ warning ∈ earlier, warning.tellsOfFallback = false := by
  rw [fallbackWarnings]
  split
  · exact ⟨prepared.warnings, selectionWarning files, rfl, rfl,
      fun _ member => prepared.tells_of_mem_warnings member⟩
  · exact ⟨[], analyzerWarning config.language, rfl, rfl, by simp⟩

/-- A full run with answers that hang on the calls alone runs the suite or fails, and
runs no test by itself. -/
theorem orders_runTests_fixed (answers : Answers Id)
    (runner : engine.registry.hasRunner config.language = true) {filter : PathFilter}
    (narrowed : engine.pathFilter config = .ok filter) :
    let full := (engine.runTests config).converse (.fixed answers) []
    (∀ test settings, .runTest test settings ∉ orders full.2) ∧
      ((∃ suite, .runSuite suite ∈ orders full.2) ∨ ∃ error, full.1 = .error error) := by
  intro full
  have ordered := orders_runTests (.fixed answers) [] runner narrowed
  dsimp only [Collaborators.fixed] at ordered
  cases answered : answers (.discover config.language config.project) with
  | error cause =>
      rw [answered] at ordered
      obtain ⟨stopped, nothing⟩ := ordered
      refine ⟨fun test settings member => ?_, Or.inr ⟨_, stopped⟩⟩
      exact List.not_mem_nil (nothing ▸ member)
  | ok tests =>
      rw [answered] at ordered
      have batch : orders full.2 = [.runSuite (selectedSuite config filter tests)] := ordered
      rw [batch]
      exact ⟨by simp, Or.inl ⟨_, List.mem_singleton_self _⟩⟩

/-- What is left of a targeted run that goes on as a full run. -/
structure GoesOnAsFull (engine : Engine) (prepared : Preparation config files)
    (targeted full : Except EngineError (Diagnosed (List TestResult)) × List Exchange) :
    Prop where
  /-- It fails as the full run fails, and has its results otherwise. -/
  outcome_eq : targeted.1 = full.1.map (Diagnosed.after (engine.fallbackWarnings prepared))
  orders_eq : orders targeted.2 = orders full.2

/-- What there is to a targeted run that runs selected tests one by one. -/
structure RunsSelected (prepared : Preparation config files) (filter : PathFilter)
    (targeted : Except EngineError (Diagnosed (List TestResult)) × List Exchange) : Prop where
  outcome : ∃ results, targeted.1 = .ok results ∧
    ∀ warning ∈ results.warnings, warning.tellsOfFallback = false
  orders_eq : orders targeted.2 = (prepared.selected filter).map (runCall config)

/-- Without an analyzer a targeted run is a full run with a warning in front. -/
theorem converse_runTargeted_unanalyzed (collaborators : Collaborators) (said : List Exchange)
    (runner : engine.registry.hasRunner config.language = true)
    (unanalyzed : engine.registry.hasAnalyzer config.language = false) {filter : PathFilter}
    (narrowed : engine.pathFilter config = .ok filter) (impact : Impact) :
    (engine.runTargeted config impact).converse collaborators said =
      Prod.map (Except.map (Diagnosed.after [analyzerWarning config.language])) id
        ((engine.runTests config).converse collaborators said) := by
  rw [runTargeted, requireRunner, if_pos runner, Plan.converse_bind, Plan.converse_done]
  dsimp only
  rw [narrowed, Plan.take, Plan.converse_bind, Plan.converse_done]
  dsimp only
  rw [if_neg (Bool.eq_false_iff.mp unanalyzed)]
  exact Plan.converse_bind_pure _ _ _ _

section Fixed

variable (answers : Answers Id) (runner : engine.registry.hasRunner config.language = true)
  {filter : PathFilter} (narrowed : engine.pathFilter config = .ok filter) (impact : Impact)

include runner narrowed

theorem runTargeted_goesOnAsFull
    (falls : engine.registry.hasAnalyzer config.language = false ∨
      (preparation config (.fixed answers) [] impact.affected).selected filter = []) :
    engine.GoesOnAsFull (preparation config (.fixed answers) [] impact.affected)
      ((engine.runTargeted config impact).converse (.fixed answers) [])
      ((engine.runTests config).converse (.fixed answers) []) := by
  let prepared := preparation config (.fixed answers) [] impact.affected
  cases analyzer : engine.registry.hasAnalyzer config.language with
  | false =>
      have warned : engine.fallbackWarnings prepared = [analyzerWarning config.language] :=
        if_neg (Bool.eq_false_iff.mp analyzer)
      have full := converse_runTargeted_unanalyzed (.fixed answers) [] runner analyzer narrowed
        impact
      refine ⟨?_, ?_⟩
      · rw [full, warned, Prod.map_fst]
      · rw [full, Prod.map_snd, id]
  | true =>
      have warned : engine.fallbackWarnings prepared =
          prepared.warnings ++ [selectionWarning impact.affected] := if_pos analyzer
      have nothing : prepared.selected filter = [] :=
        falls.resolve_left fun unanalyzed =>
          Bool.false_ne_true (unanalyzed.symm.trans analyzer)
      have full := converse_runTargeted_preparation (.fixed answers) [] runner analyzer narrowed
        impact
      dsimp only at full
      rw [nothing, converse_runSelected_nil, List.nil_append,
        (engine.runTests config).converse_fixed] at full
      refine ⟨?_, ?_⟩
      · rw [full, warned, Prod.map_fst]
      · rw [full, Prod.map_snd, id, orders_append,
          orders_of_asks fun _ member => prepared.asks_of_mem member, List.nil_append]

theorem runTargeted_runsSelected
    (analyzer : engine.registry.hasAnalyzer config.language = true)
    (selects : (preparation config (.fixed answers) [] impact.affected).selected filter ≠ []) :
    RunsSelected (preparation config (.fixed answers) [] impact.affected) filter
      ((engine.runTargeted config impact).converse (.fixed answers) []) := by
  let prepared := preparation config (.fixed answers) [] impact.affected
  have ran := converse_runTargeted_preparation (.fixed answers) [] runner analyzer narrowed impact
  have calls := (Collaborators.fixed answers).map_call_interview prepared.said
    ((prepared.selected filter).map (runCall config))
  dsimp only at ran
  rw [converse_runSelected_outcome _ _ _ _ selects, List.nil_append] at ran
  refine ⟨⟨_, congrArg Prod.fst ran, fun warning member => ?_⟩, ?_⟩
  · rcases List.mem_append.mp member with earlier | execution
    · exact prepared.tells_of_mem_warnings earlier
    · simp [Warning.tellsOfFallback, kind_of_mem_failureWarnings execution]
  · rw [ran, orders_append, orders_of_asks fun _ member => prepared.asks_of_mem member,
      List.nil_append]
    exact orders_of_runCalls config calls

end Fixed

end Engine

end TestImpact
