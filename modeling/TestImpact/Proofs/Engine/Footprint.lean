import TestImpact.Engine.Service
import TestImpact.Proofs.Engine.Keeping
import TestImpact.Proofs.Engine.Runs

/-!
# The calls of the engine

Building an impact asks for a graph and looks up files, and nothing else. A run calls the
runner and the analyzer of its language with its own project and settings; what it has run
is a suite that its patterns have narrowed, or a test that they let through.
-/

namespace TestImpact

open Plan (KeepsTo)
open Testing

namespace Reach

variable {permitted : Call → Prop}

/-- A walk calls nobody. -/
theorem keeps_exploreWatched (steps : Steps) (bound : Nat) (start : List String)
    (queue : List (String × Nat)) (found : Traversal) :
    KeepsTo permitted (exploreWatched steps bound start queue found) := by
  induction queue, found using explore.induct steps bound start with
  | case1 found =>
      rw [exploreWatched]
      exact .done _
  | case2 file depth queue found passed ih =>
      rw [exploreWatched]
      refine .checkpoint fun cancelled => ?_
      cases cancelled with
      | true => exact .done _
      | false =>
          rw [if_neg Bool.false_ne_true, if_pos passed]
          exact ih
  | case3 file depth queue found expandable ih =>
      rw [exploreWatched]
      refine .checkpoint fun cancelled => ?_
      cases cancelled with
      | true => exact .done _
      | false =>
          rw [if_neg Bool.false_ne_true, if_neg expandable]
          exact ih

theorem Resolver.keeps_traverseWatched (resolver : Resolver) (graph : SymbolGraph)
    (start : List String) : KeepsTo permitted (resolver.traverseWatched graph start) := by
  rw [traverseWatched]
  cases graph.isEmpty with
  | true => exact .done _
  | false => exact keeps_exploreWatched _ _ _ _ _

end Reach

namespace Engine

/-- The lookups of files in a project. -/
inductive IsLookup (project : String) : Call → Prop where
  | findTests (language file : String) : IsLookup project (.findTests language file project)

/-- The calls that building an impact makes. -/
inductive IsBuildCall (project : String) : Call → Prop where
  | graph : IsBuildCall project (.graph project)
  | lookup {call : Call} (looksUp : IsLookup project call) : IsBuildCall project call

/-- The calls that a run makes. -/
inductive IsRunCall (engine : Engine) (config : RunConfig) : Call → Prop where
  | discover : IsRunCall engine config (.discover config.language config.project)
  | lookup (file : String) : IsRunCall engine config (lookupCall config file)
  | smoke (test : Test) : IsRunCall engine config (smokeCall config test)
  | suite {filter : PathFilter} (narrowed : engine.pathFilter config = .ok filter)
      (tests : List Test) :
      IsRunCall engine config (.runSuite (selectedSuite config filter tests))
  | single {filter : PathFilter} (narrowed : engine.pathFilter config = .ok filter)
      {test : String} (allowed : filter.allows test = true) : IsRunCall engine config (runCall config test)

section Calls

variable (engine : Engine) (config : RunConfig) (project language : String)
  {permitted : Call → Prop}

theorem keeps_follow (graph : SymbolGraph) (file : String) :
    KeepsTo permitted (engine.follow graph file) := by
  refine (engine.resolver.keeps_traverseWatched graph _).bind fun answer => ?_
  cases answer with
  | error cause => exact .stop _
  | ok found => exact .done _

theorem keeps_lookUp (file : String) : KeepsTo (IsLookup project) (engine.lookUp project file) := by
  rw [lookUp]
  cases SourceLanguage.ofPath? file with
  | none => exact .done _
  | some language =>
      dsimp only
      split
      · exact (KeepsTo.request (.findTests language.name file)).bind fun answer => .done _
      · exact .done _

theorem keeps_requestGraph (allowed : permitted (.graph project)) :
    KeepsTo permitted (engine.requestGraph project) := by
  refine KeepsTo.ask.bind fun _ => (KeepsTo.request allowed).bind fun graph => ?_
  cases engine.providerWaits with
  | true => exact KeepsTo.ask.bind fun _ => .done graph
  | false => exact .done graph

theorem keeps_buildImpact (changed : List String) :
    KeepsTo (IsBuildCall project) (engine.buildImpact changed project) := by
  refine (engine.keeps_requestGraph project .graph).bind fun answer => ?_
  cases answer with
  | error cause => exact .done _
  | ok graph =>
      refine (KeepsTo.inTurn fun file _ => engine.keeps_follow graph file).bind fun reached => ?_
      refine (KeepsTo.inTurn fun file _ => ?_).bind fun lookups => .done _
      exact (engine.keeps_lookUp project file).mono fun _ => .lookup

theorem keeps_requireRunner : KeepsTo permitted (engine.requireRunner language) := by
  rw [requireRunner]
  split
  · exact .done ()
  · exact .stop _

theorem keeps_requireAnalyzer : KeepsTo permitted (engine.requireAnalyzer language) := by
  rw [requireAnalyzer]
  split
  · exact .done ()
  · exact .stop _

theorem keeps_discover :
    KeepsTo (engine.IsRunCall config) (discover config.language config.project) := by
  refine (KeepsTo.request .discover).bind fun answer => ?_
  cases answer with
  | error cause => exact .stop _
  | ok tests => exact .done tests

theorem keeps_runTests : KeepsTo (engine.IsRunCall config) (engine.runTests config) := by
  refine (engine.keeps_requireRunner config.language).bind fun _ => ?_
  refine KeepsTo.take_bind fun filter narrowed => KeepsTo.ask.bind fun _ => ?_
  refine (engine.keeps_discover config).bind fun tests => KeepsTo.ask.bind fun _ => ?_
  refine (KeepsTo.request (.suite narrowed tests)).bind fun answer => ?_
  cases answer with
  | error cause => exact .stop _
  | ok results => exact .done _

theorem keeps_findSmokeTests :
    KeepsTo (engine.IsRunCall config) (engine.findSmokeTests config.project config.language) := by
  refine (engine.keeps_requireAnalyzer config.language).bind fun _ => ?_
  refine KeepsTo.bind ?_ fun suite => KeepsTo.bind ?_ fun outcomes => .done _
  · refine (engine.keeps_requireRunner config.language).bind fun _ => KeepsTo.ask.bind fun _ => ?_
    exact (engine.keeps_discover config).bind fun tests => .done _
  · exact KeepsTo.inTurn_request fun test _ => .smoke test

theorem keeps_smokeFirst (targeted : List String) :
    KeepsTo (engine.IsRunCall config) (engine.smokeFirst config targeted) := by
  rw [smokeFirst]
  split
  · refine (engine.keeps_findSmokeTests config).attempt.bind fun outcome => ?_
    cases outcome with
    | ok smoke => exact .done _
    | error cause =>
        cases cause with
        | cancelled => exact .stop _
        | _ => exact .done _
  · exact .done _

theorem keeps_runSelected {filter : PathFilter} (narrowed : engine.pathFilter config = .ok filter)
    (affected : List String) (warnings : List Warning) {selected : List String}
    (allowed : ∀ test ∈ selected, filter.allows test = true) :
    KeepsTo (engine.IsRunCall config) (engine.runSelected config affected warnings selected) := by
  rw [runSelected]
  split
  · exact (engine.keeps_runTests config).bind fun full => .done _
  · refine KeepsTo.bind ?_ fun outcomes => .done _
    exact KeepsTo.inTurn_request fun test member => .single narrowed (allowed test member)

theorem keeps_runTargeted (impact : Impact) :
    KeepsTo (engine.IsRunCall config) (engine.runTargeted config impact) := by
  refine (engine.keeps_requireRunner config.language).bind fun _ => ?_
  refine KeepsTo.take_bind fun filter narrowed => ?_
  split
  · refine (KeepsTo.inTurn_request fun file _ => .lookup file).bind fun lookups => ?_
    refine (engine.keeps_smokeFirst config _).bind fun ordered => ?_
    refine engine.keeps_runSelected config narrowed _ _ fun test member => ?_
    rw [PathFilter.narrow_eq_filter] at member
    exact (List.mem_filter.mp member).2
  · exact (engine.keeps_runTests config).bind fun full => .done _

theorem keeps_serve (changed : List String) :
    KeepsTo (fun call => IsBuildCall config.project call ∨ engine.IsRunCall config call)
      (engine.serve config changed) := by
  rw [serve]
  split
  · refine ((engine.keeps_buildImpact config.project changed).mono fun _ => Or.inl).bind
      fun impact => ?_
    refine ((engine.keeps_runTargeted config impact.value).mono fun _ => Or.inr).bind
      fun results => .done _
  · exact (engine.keeps_runTests config).mono fun _ => Or.inr

end Calls

end Engine

end TestImpact
