import TestImpact.Proofs.Engine.Footprint
import TestImpact.Proofs.Testing.Patterns

/-!
# Tests that are excluded

Whatever leads to a test, be it a lookup, a search for smoke tests or a discovery, it is
run only if the patterns of the run permit its path, and this holds at every moment of a
run, whoever answers and whenever it is cancelled. Patterns that cannot be read end a run
before the first call; a run for a change builds the impact first, but never comes to call
the runner.
-/

namespace TestImpact

open Glob (Readable)
open Plan (Cancellation KeepsTo calls)
open Testing

def Call.isToRunner : Call → Bool
  | .discover _ _ => true
  | .runSuite _ => true
  | .runTest _ _ => true
  | _ => false

/-- What only goes on to stop ends with its own error or, if it comes that far, with the
other. -/
theorem Plan.outcome_course_bind_stop {α β : Type} (plan : Plan α) (error : EngineError)
    (collaborators : Collaborators) (cancelled : Cancellation) (past : List Plan.Moment)
    (said : List Exchange) :
    let first := plan.course collaborators cancelled past said
    let whole :=
      (plan >>= fun _ => (.stop error : Plan β)).course collaborators cancelled past said
    whole.outcome = .error error ∨
      ∃ cause, first.outcome = .error cause ∧ whole.outcome = .error cause := by
  intro first whole
  have ended : whole = _ := Plan.course_bind collaborators cancelled past said plan _
  cases outcome : (plan.course collaborators cancelled past said).outcome with
  | ok value =>
      rw [outcome] at ended
      dsimp only at ended
      rw [Plan.course_stop] at ended
      exact Or.inl (congrArg Course.outcome ended)
  | error cause =>
      rw [outcome] at ended
      exact Or.inr ⟨cause, rfl, congrArg Course.outcome ended⟩

namespace Engine

def RunsPermitted (config : RunConfig) : Call → Prop
  | .runTest test _ => config.Permits test
  | .runSuite suite => ∀ test ∈ suite.tests, config.Permits test.path
  | _ => True

/-- A plan that ended with an error before its first call. -/
structure Refuses {α : Type} (course : Course α) (error : EngineError) : Prop where
  outcome : course.outcome = .error error
  calls : calls course.moments = []

theorem refuses_of_eq_stop {α : Type} {plan : Plan α} {error : EngineError}
    (stops : plan = .stop error) (collaborators : Collaborators) (cancelled : Cancellation) :
    Refuses (plan.course collaborators cancelled [] []) error := by
  rw [stops, Plan.course_stop]
  exact ⟨rfl, rfl⟩

variable {engine : Engine} {config : RunConfig}

/-- A run has a filter for the paths that its patterns permit, or ends with what is wrong with
them first. -/
theorem pathFilter_cases (engine : Engine) (config : RunConfig) :
    (∃ filter, engine.pathFilter config = .ok filter ∧
        config.UsablePatterns engine.patternLimit ∧
        ∀ path, filter.allows path = true ↔ config.Permits path) ∨
      ∃ fault : PatternsFault,
        engine.pathFilter config = .error (.invalidConfig (.patterns fault)) ∧
        fault.FirstOf engine.patternLimit config := by
  rw [pathFilter]
  cases made : PathFilter.ofConfig engine.patternLimit config with
  | ok filter =>
      exact .inl ⟨filter, rfl, PathFilter.usablePatterns_of_ofConfig made,
        PathFilter.allows_of_ofConfig made⟩
  | error fault => exact .inr ⟨fault, rfl, PathFilter.ofConfig_eq_error_iff.mp made⟩

theorem permits_of_allows {filter : PathFilter} (narrowed : engine.pathFilter config = .ok filter)
    {path : String} (allowed : filter.allows path = true) : config.Permits path := by
  rcases engine.pathFilter_cases config with ⟨read, found, _, permits⟩ | ⟨fault, failed, _⟩
  · obtain rfl : read = filter := Except.ok.inj (found.symm.trans narrowed)
    exact (permits path).mp allowed
  · cases failed.symm.trans narrowed

theorem pathFilter_unreadable (engine : Engine)
    (unreadable : ∃ pattern ∈ config.included ++ config.excluded, ¬ Readable pattern) :
    ∃ fault : PatternsFault, fault.FirstOf engine.patternLimit config ∧
      engine.pathFilter config = .error (.invalidConfig (.patterns fault)) := by
  rcases engine.pathFilter_cases config with ⟨_, _, usable, _⟩ | ⟨fault, failed, first⟩
  · obtain ⟨pattern, member, refused⟩ := unreadable
    rcases List.mem_append.mp member with including | excluding
    · exact absurd (usable.included.readable pattern including) refused
    · exact absurd (usable.excluded.readable pattern excluding) refused
  · exact ⟨fault, first, failed⟩

/-- What a run calls runs permitted tests only. -/
theorem IsRunCall.runsPermitted {call : Call} (made : engine.IsRunCall config call) :
    RunsPermitted config call := by
  cases made with
  | discover => trivial
  | lookup file => trivial
  | smoke test => trivial
  | suite narrowed tests =>
      intro test selected
      exact permits_of_allows narrowed (List.mem_filter.mp selected).2
  | single narrowed allowed => exact permits_of_allows narrowed allowed

/-- What is called to build an impact runs no test. -/
theorem IsBuildCall.runsPermitted {project : String} {call : Call}
    (made : IsBuildCall project call) : RunsPermitted config call := by
  cases made with
  | graph => trivial
  | lookup looksUp =>
      cases looksUp
      trivial

theorem IsBuildCall.isToRunner_eq_false {project : String} {call : Call}
    (made : IsBuildCall project call) : call.isToRunner = false := by
  cases made with
  | graph => rfl
  | lookup looksUp =>
      cases looksUp
      rfl

section Refused

variable (runner : engine.registry.hasRunner config.language = true) {error : EngineError}
  (refused : engine.pathFilter config = .error error)

include runner refused

theorem runTests_eq_stop : engine.runTests config = .stop error := by
  rw [runTests, requireRunner, if_pos runner, refused]
  rfl

theorem runTargeted_eq_stop (impact : Impact) : engine.runTargeted config impact = .stop error := by
  rw [runTargeted, requireRunner, if_pos runner, refused]
  rfl

/-- A run for a change comes to nothing behind the impact. -/
theorem serve_eq_stop (changed : List String) :
    engine.serve config changed = .stop error ∨
      engine.serve config changed =
        engine.buildImpact changed config.project >>= fun _ => .stop error := by
  rw [serve]
  split
  · refine Or.inr (congrArg (_ >>= ·) (funext fun impact => ?_))
    rw [runTargeted_eq_stop runner refused]
    rfl
  · exact Or.inl (runTests_eq_stop runner refused)

theorem keeps_serve_refused (changed : List String) :
    KeepsTo (fun call => call.isToRunner = false) (engine.serve config changed) := by
  rcases serve_eq_stop runner refused changed with stops | builds
  · rw [stops]
    exact .stop error
  · rw [builds]
    refine ((engine.keeps_buildImpact config.project changed).mono fun call made => ?_).bind
      fun impact => .stop error
    exact made.isToRunner_eq_false

/-- The error of the impact comes first, then that of the patterns. -/
theorem outcome_serve_refused (collaborators : Collaborators) (cancelled : Cancellation)
    (changed : List String) :
    let built := (engine.buildImpact changed config.project).course collaborators cancelled [] []
    let served := (engine.serve config changed).course collaborators cancelled [] []
    served.outcome = .error error ∨
      ∃ cause, built.outcome = .error cause ∧ served.outcome = .error cause := by
  intro built served
  rcases serve_eq_stop runner refused changed with stops | builds
  · exact Or.inl (refuses_of_eq_stop stops collaborators cancelled).outcome
  · have ended : served = _ := congrArg (·.course collaborators cancelled [] []) builds
    rw [ended]
    exact Plan.outcome_course_bind_stop _ error collaborators cancelled [] []

end Refused

/-- Every test that is run has a path that the patterns of the run permit: each test run by
itself and each test of a suite, in a full run, in a targeted run, and in a run for a change.
A pattern that cannot be read ends a full and a targeted run before the first call, with
the first such pattern as the error, and a run for a change before the first call to a
runner. -/
theorem excluded_never_run (engine : Engine) (config : RunConfig) (impact : Impact)
    (changed : List String) (collaborators : Collaborators) (cancelled : Cancellation) :
    let full := (engine.runTests config).course collaborators cancelled [] []
    let targeted := (engine.runTargeted config impact).course collaborators cancelled [] []
    let built := (engine.buildImpact changed config.project).course collaborators cancelled [] []
    let served := (engine.serve config changed).course collaborators cancelled [] []
    (∀ call ∈ calls full.moments ++ calls targeted.moments ++ calls served.moments,
        RunsPermitted config call) ∧
      (engine.registry.hasRunner config.language = true →
        (∃ pattern ∈ config.included ++ config.excluded, ¬ Readable pattern) →
          ∃ fault : PatternsFault, fault.FirstOf engine.patternLimit config ∧
            Refuses full (.invalidConfig (.patterns fault)) ∧
            Refuses targeted (.invalidConfig (.patterns fault)) ∧
            (served.outcome = .error (.invalidConfig (.patterns fault)) ∨
              ∃ cause, built.outcome = .error cause ∧ served.outcome = .error cause) ∧
            ∀ call ∈ calls served.moments, call.isToRunner = false) := by
  intro full targeted built served
  refine ⟨fun call made => ?_, fun runner unreadable => ?_⟩
  · rcases List.mem_append.mp made with direct | serving
    · rcases List.mem_append.mp direct with running | targeting
      · exact ((engine.keeps_runTests config).permitted_of_mem_calls running).runsPermitted
      · exact ((engine.keeps_runTargeted config impact).permitted_of_mem_calls
          targeting).runsPermitted
    · rcases (engine.keeps_serve config changed).permitted_of_mem_calls serving with
        building | running
      · exact building.runsPermitted
      · exact running.runsPermitted
  · obtain ⟨fault, first, refused⟩ := engine.pathFilter_unreadable unreadable
    refine ⟨fault, first, ?_, ?_, ?_, ?_⟩
    · exact refuses_of_eq_stop (runTests_eq_stop runner refused) collaborators cancelled
    · exact refuses_of_eq_stop (runTargeted_eq_stop runner refused impact) collaborators cancelled
    · exact outcome_serve_refused runner refused collaborators cancelled changed
    · intro call made
      exact (keeps_serve_refused runner refused changed).permitted_of_mem_calls made

/-- A test that was found and is let through, and a pattern that cannot be read. -/
theorem excluded_never_run_unreadable :
    let engine : Engine := ⟨.ofLanguages ["go"] ["go"], .usual, false, Glob.nestingLimit⟩
    let plain := RunConfig.plain "go" "/shop" .affected
    let config : RunConfig := { plain with excluded := ["*.txt"] }
    let broken : RunConfig := { plain with included := ["*.go"], excluded := ["["] }
    let script : Script :=
      ⟨.error .cancelled, [], fun _ => .ok ["cases.txt", "cart_test.go"], fun _ => .ok false⟩
    let collaborators := Collaborators.fixed script.answers
    let impact : Impact := .ofChanged ["cart.go"]
    let course := (engine.runTargeted config impact).course collaborators .never [] []
    let refused := (engine.runTargeted broken impact).course collaborators .never [] []
    calls course.moments = [lookupCall config "cart.go", runCall config "cart_test.go"] ∧
      config.Permits "cart_test.go" ∧ ¬ config.Permits "cases.txt" ∧
      engine.registry.hasRunner broken.language = true ∧
      (∃ pattern ∈ broken.included ++ broken.excluded, ¬ Readable pattern) ∧
      ∃ fault : PatternsFault, fault.FirstOf engine.patternLimit broken ∧
        Refuses refused (.invalidConfig (.patterns fault)) := by
  intro engine plain config broken script collaborators impact course refused
  have listed : calls course.moments =
      [lookupCall config "cart.go", runCall config "cart_test.go"] := rfl
  have made : runCall config "cart_test.go" ∈ calls course.moments :=
    listed ▸ List.mem_cons_of_mem _ (List.mem_singleton_self _)
  have permitted : config.Permits "cart_test.go" :=
    (excluded_never_run engine config impact [] collaborators .never).1 (runCall config
      "cart_test.go") (List.mem_append_left _ (List.mem_append_right _ made))
  have forbidden : ¬ config.Permits "cases.txt" := fun permits =>
    permits.2 "*.txt" (List.mem_singleton_self _)
      ⟨.ofTokens [.anything, .literal '.', .literal 't', .literal 'x', .literal 't'], rfl,
        by decide⟩
  have runner : engine.registry.hasRunner broken.language = true := by decide
  have unreadable : ∃ pattern ∈ broken.included ++ broken.excluded, ¬ Readable pattern := by
    refine ⟨"[", by simp [broken], ?_⟩
    rintro ⟨compiled, read⟩
    cases read
  obtain ⟨fault, first, _, refuses, _⟩ :=
    (excluded_never_run engine broken impact [] collaborators .never).2 runner unreadable
  exact ⟨listed, permitted, forbidden, runner, unreadable, fault, first, refuses⟩

end Engine

end TestImpact
