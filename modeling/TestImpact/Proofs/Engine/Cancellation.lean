import TestImpact.Engine.Service
import TestImpact.Proofs.Engine.Heeding
import TestImpact.Proofs.Reach.Watched

/-!
# Cancelled runs

Everything that is asked of the engine heeds a cancellation: building an impact,
discovering tests, searching for smoke tests, and every run. A walk that is cancelled
ends the work as cancelled, and so does a search for smoke tests that is cancelled in
the middle of a targeted run, although any other failure of the search is only a
warning there.
-/

namespace TestImpact

open Plan (Cancellation Heeds)
open Testing

namespace Reach

variable {β : Type} {checked : Bool} {next : Except GraphError Traversal → Plan β}

theorem heeds_exploreWatched_bind (steps : Steps) (bound : Nat) (start : List String)
    (queue : List (String × Nat)) (found : Traversal)
    (passedOn : next (.error .cancelled) = .stop .cancelled)
    (ended : ∀ found, Heeds false (next (.ok found))) :
    Heeds checked (exploreWatched steps bound start queue found >>= next) := by
  induction queue, found using explore.induct steps bound start generalizing checked with
  | case1 found =>
      rw [exploreWatched]
      exact (ended found).weaken
  | case2 file depth queue found passed ih =>
      rw [exploreWatched]
      refine .checkpoint passedOn ?_
      dsimp only
      rw [if_neg Bool.false_ne_true, if_pos passed]
      exact ih
  | case3 file depth queue found expandable ih =>
      rw [exploreWatched]
      refine .checkpoint passedOn ?_
      dsimp only
      rw [if_neg Bool.false_ne_true, if_neg expandable]
      exact ih

theorem Resolver.heeds_traverseWatched_bind (resolver : Resolver) (graph : SymbolGraph)
    (start : List String) (passedOn : next (.error .cancelled) = .stop .cancelled)
    (ended : ∀ found, Heeds false (next (.ok found))) :
    Heeds checked (resolver.traverseWatched graph start >>= next) := by
  rw [traverseWatched]
  cases graph.isEmpty with
  | true => exact (ended .empty).weaken
  | false => exact heeds_exploreWatched_bind _ _ _ _ _ passedOn ended

end Reach

namespace Engine

variable {checked : Bool} (engine : Engine) (config : RunConfig) (project language : String)

theorem heeds_requireRunner : Heeds checked (engine.requireRunner language) := by
  rw [requireRunner]
  split
  · exact .done ()
  · exact .stop (by simp)

theorem heeds_requireAnalyzer : Heeds checked (engine.requireAnalyzer language) := by
  rw [requireAnalyzer]
  split
  · exact .done ()
  · exact .stop (by simp)

theorem heeds_discover : Heeds true (discover language project) := by
  refine (Heeds.request _).bind fun answer => ?_
  cases answer with
  | error cause => exact .stop (by simp)
  | ok tests => exact .done tests

theorem heeds_discoverTests : Heeds checked (engine.discoverTests project language) := by
  refine (engine.heeds_requireRunner language).bind fun _ => Heeds.ask_bind ?_
  exact (heeds_discover project language).bind fun tests => .done _

theorem heeds_pathFilter : Heeds checked (Plan.take (engine.pathFilter config)) := by
  rw [pathFilter]
  cases PathFilter.ofConfig engine.patternLimit config with
  | error fault => exact .stop (by simp)
  | ok filter => exact .done filter

theorem heeds_runTests : Heeds checked (engine.runTests config) := by
  refine (engine.heeds_requireRunner config.language).bind fun _ => ?_
  refine (engine.heeds_pathFilter config).bind fun filter => Heeds.ask_bind ?_
  refine (heeds_discover config.project config.language).bind fun tests => Heeds.ask_bind ?_
  refine (Heeds.request _).bind fun answer => ?_
  cases answer with
  | error cause => exact .stop (by simp)
  | ok results => exact .done _

/-- Work that makes one call for each item heeds a cancellation before each. -/
theorem heeds_inTurn_request {ι β : Type} (wanted : ι → Call)
    (result : (item : ι) → (wanted item).Answer → β) (items : List ι) :
    Heeds checked (Plan.inTurn
      (fun item => do return result item (← Plan.request (wanted item))) items) :=
  Heeds.inTurn (fun item => (Heeds.request (wanted item)).bind fun _ => .done _) items

theorem heeds_findSmokeTests : Heeds checked (engine.findSmokeTests project language) := by
  refine (engine.heeds_requireAnalyzer language).bind fun _ => ?_
  refine (engine.heeds_discoverTests project language).bind fun suite => ?_
  refine Heeds.bind ?_ fun outcomes => .done _
  exact heeds_inTurn_request (fun test : Test => .isSmoke language test.path)
    (fun test answer => (test.path, answer)) suite.tests

theorem heeds_smokeFirst (targeted : List String) :
    Heeds checked (engine.smokeFirst config targeted) := by
  rw [smokeFirst]
  split
  · refine (engine.heeds_findSmokeTests config.project config.language).attempt_bind rfl
      (fun smoke => .done _) fun error other => ?_
    cases error with
    | cancelled => exact absurd rfl other
    | _ => exact .done _
  · exact .done _

theorem heeds_lookUpTests (files : List String) : Heeds checked (lookUpTests config files) :=
  heeds_inTurn_request (fun file => .findTests config.language file config.project)
    (fun file answer => (file, answer)) files

theorem heeds_runSelected (affected : List String) (warnings : List Warning)
    (selected : List String) :
    Heeds checked (engine.runSelected config affected warnings selected) := by
  rw [runSelected]
  split
  · exact (engine.heeds_runTests config).bind fun full => .done _
  · refine Heeds.bind ?_ fun outcomes => .done _
    exact heeds_inTurn_request (fun test => .runTest test config)
      (fun test answer => (test, answer)) selected

theorem heeds_runTargeted (impact : Impact) :
    Heeds checked (engine.runTargeted config impact) := by
  refine (engine.heeds_requireRunner config.language).bind fun _ => ?_
  refine (engine.heeds_pathFilter config).bind fun filter => ?_
  split
  · refine (heeds_lookUpTests config impact.affected).bind fun lookups => ?_
    refine (engine.heeds_smokeFirst config (foundTests lookups)).bind fun ordered => ?_
    exact engine.heeds_runSelected config _ _ _
  · exact (engine.heeds_runTests config).bind fun full => .done _

theorem heeds_requestGraph : Heeds checked (engine.requestGraph project) := by
  refine Heeds.ask_bind ((Heeds.request (.graph project)).bind fun graph => ?_)
  cases engine.providerWaits with
  | true => exact Heeds.ask_bind (.done graph)
  | false => exact .done graph

theorem heeds_follow (graph : SymbolGraph) (file : String) :
    Heeds checked (engine.follow graph file) :=
  engine.resolver.heeds_traverseWatched_bind graph _ rfl fun _ => .done _

theorem heeds_lookUp (file : String) : Heeds true (engine.lookUp project file) := by
  rw [lookUp]
  cases SourceLanguage.ofPath? file with
  | none => exact .done _
  | some language =>
      dsimp only
      split
      · exact (Heeds.request _).bind fun answer => .done _
      · exact .done _

theorem heeds_buildImpact (changed : List String) :
    Heeds checked (engine.buildImpact changed project) := by
  refine (engine.heeds_requestGraph project).bind fun answer => ?_
  cases answer with
  | error cause => exact .done _
  | ok graph =>
      refine (Heeds.inTurn (engine.heeds_follow graph) _).bind fun reached => ?_
      exact (Heeds.inTurn (engine.heeds_lookUp project) _).bind fun lookups => .done _

theorem heeds_serve (changed : List String) : Heeds checked (engine.serve config changed) := by
  rw [serve]
  split
  · refine (engine.heeds_buildImpact config.project changed).bind fun impact => ?_
    exact (engine.heeds_runTargeted config impact.value).bind fun results => .done _
  · exact engine.heeds_runTests config

/-- Whenever the work is cancelled, and for good, it makes no more calls, and what is asked
of the engine either ends as cancelled or gives what it gives without a cancellation. -/
theorem withstands_cancellation (collaborators : Collaborators) (changed : List String)
    (impact : Impact) {cancelled : Cancellation} (lasting : cancelled.Lasting) :
    (engine.buildImpact changed project).Withstands collaborators cancelled ∧
      (engine.discoverTests project language).Withstands collaborators cancelled ∧
      (engine.findSmokeTests project language).Withstands collaborators cancelled ∧
      (engine.runTests config).Withstands collaborators cancelled ∧
      (engine.runTargeted config impact).Withstands collaborators cancelled ∧
      (engine.serve config changed).Withstands collaborators cancelled :=
  ⟨(engine.heeds_buildImpact project changed).withstands collaborators lasting,
    (engine.heeds_discoverTests project language).withstands collaborators lasting,
    (engine.heeds_findSmokeTests project language).withstands collaborators lasting,
    (engine.heeds_runTests config).withstands collaborators lasting,
    (engine.heeds_runTargeted config impact).withstands collaborators lasting,
    (engine.heeds_serve config changed).withstands collaborators lasting⟩

/-- A targeted run that is cancelled while the tests are discovered for its smoke search. -/
theorem withstands_cancellation_search :
    let engine : Engine := ⟨.ofLanguages ["go"] ["go"], .usual, false, Glob.nestingLimit⟩
    let config : RunConfig := .plain "go" "/shop" .affectedSmoke
    let script : Script :=
      ⟨.error .cancelled, [.ofPath "s_test.go" .unit, .ofPath "b_test.go" .unit],
        fun _ => .ok ["c_test.go"], fun test => .ok (test = "s_test.go")⟩
    let collaborators := Collaborators.fixed script.answers
    let impact : Impact := .ofChanged ["cart.go"]
    let cancelled : Cancellation := fun past => (Call.discover "go" "/shop") ∈ Plan.calls past
    let course := (engine.runTargeted config impact).course collaborators cancelled [] []
    cancelled.Lasting ∧ course.outcome = .error .cancelled ∧
      course.moments = [.asked, .called (.findTests "go" "cart.go" "/shop"), .asked,
        .called (.discover "go" "/shop"), .asked] ∧
      (engine.runTargeted config impact).Withstands collaborators cancelled := by
  intro engine config script collaborators impact cancelled course
  have lasting : cancelled.Lasting := by
    intro past later already
    have called : Call.discover "go" "/shop" ∈ Plan.calls past := of_decide_eq_true already
    refine decide_eq_true ?_
    rw [Plan.calls, List.filterMap_append]
    exact List.mem_append_left _ called
  exact ⟨lasting, rfl, rfl,
    (withstands_cancellation engine config "/shop" "go" collaborators [] impact
      lasting).2.2.2.2.1⟩

end Engine

end TestImpact
