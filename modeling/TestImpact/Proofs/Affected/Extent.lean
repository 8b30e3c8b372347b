import TestImpact.Proofs.Affected.Lookup
import TestImpact.Proofs.Reach.Exact
import TestImpact.Proofs.Reach.Watched

/-!
# How far a change reaches

Building an impact always ends, and nothing is run for it. With a symbol graph the
files affected are those within the depth of a changed file, counted in references
from file to file; without one they are the changed files. What the analyzers
answer has no part in it.
-/

namespace TestImpact.Engine

open Listing (firstOccurrences mem_firstOccurrences mem_foldl_collect)
open Reach (Reachable Resolver reached_iff)

variable (engine : Engine) (collaborators : Collaborators) (said : List Exchange)

def graphExchange (project : String) : Exchange :=
  ⟨.graph project, collaborators said (.graph project)⟩

theorem converse_requestGraph (project : String) :
    (engine.requestGraph project).converse collaborators said =
      (.ok (collaborators said (.graph project)),
        said ++ [graphExchange collaborators said project]) := by
  cases waits : engine.providerWaits <;>
    simp [requestGraph, Plan.converse_bind, waits, graphExchange]

def reachedFrom (graph : SymbolGraph) (file : String) : Reached :=
  ⟨file, Resolver.direct graph file,
    (engine.resolver.traverse graph (Resolver.direct graph file)).discovered⟩

theorem converse_follow (graph : SymbolGraph) (file : String) :
    (engine.follow graph file).converse collaborators said =
      (.ok (engine.reachedFrom graph file), said) := by
  simp [follow, Plan.converse_bind, reachedFrom]

theorem mem_reachedFrom {graph : SymbolGraph} {origin file : String} :
    (file = origin ∨ file ∈ (engine.reachedFrom graph origin).direct ++
        (engine.reachedFrom graph origin).indirect) ↔
      Reachable graph engine.resolver.depth [origin] file := by
  rw [List.mem_append]
  exact reached_iff engine.resolver graph

theorem mem_affected_impactOf {graph : SymbolGraph} {changed : List String} {file : String} :
    file ∈ (impactOf changed
        ((firstOccurrences changed).map (engine.reachedFrom graph))).affected ↔
      Reachable graph engine.resolver.depth changed file := by
  have listed : file ∈ (impactOf changed
      ((firstOccurrences changed).map (engine.reachedFrom graph))).affected ↔
        ∃ origin ∈ changed, file = origin ∨ file ∈ (engine.reachedFrom graph origin).direct ++
          (engine.reachedFrom graph origin).indirect := by
    simp only [impactOf, Impact.ofChanged, mem_foldl_collect, mem_firstOccurrences,
      List.mem_append, List.mem_flatMap, List.mem_map, exists_exists_and_eq_and]
    constructor
    · rintro (changes | ⟨origin, changes, led⟩)
      · exact ⟨file, changes, Or.inl rfl⟩
      · exact ⟨origin, changes, Or.inr led⟩
    · rintro ⟨origin, changes, rfl | led⟩
      · exact Or.inl changes
      · exact Or.inr ⟨origin, changes, led⟩
  rw [listed]
  simp only [mem_reachedFrom, Reachable, List.mem_singleton, exists_eq_left]

/-- With a graph, the affected files are what the changed files reach, and each of them is
looked up. -/
theorem converse_buildImpact_lookups {graph : SymbolGraph} {project : String}
    (changed : List String) (delivered : collaborators said (.graph project) = .ok graph)
    {lookups : List (String × Lookup)} {heard : List Exchange} :
    let impact := impactOf changed ((firstOccurrences changed).map (engine.reachedFrom graph))
    (Plan.inTurn (engine.lookUp project) impact.affected).converse collaborators
        (said ++ [graphExchange collaborators said project]) = (.ok lookups, heard) →
      (engine.buildImpact changed project).converse collaborators said =
        (.ok ⟨{ impact with coverage := coverageOf lookups }, lookupWarnings [] lookups⟩, heard) := by
  intro impact ended
  rw [buildImpact, Plan.converse_bind, converse_requestGraph, delivered]
  dsimp only
  rw [Plan.converse_bind, Plan.converse_inTurn_silent collaborators _
    (fun file said => engine.converse_follow collaborators said graph file)]
  dsimp only
  rw [Plan.converse_bind, ended]
  rfl

/-- With a graph, an impact is built from what the changed files reach. -/
theorem converse_buildImpact_graph {graph : SymbolGraph} {project : String} (changed : List String)
    (delivered : collaborators said (.graph project) = .ok graph) :
    ∃ impact warnings heard, (engine.buildImpact changed project).converse collaborators said =
        (.ok ⟨impact, warnings⟩, said ++ heard) ∧
      (∀ exchange ∈ heard, exchange.call.asks = true) ∧
      ∀ file, file ∈ impact.affected ↔
        Reachable graph engine.resolver.depth changed file := by
  let impact := impactOf changed ((firstOccurrences changed).map (engine.reachedFrom graph))
  obtain ⟨lookups, heard, ended, asks⟩ := Plan.converse_inTurn_ok collaborators
    (said ++ [graphExchange collaborators said project])
    (fun file heard => engine.converse_lookUp collaborators heard project file) impact.affected
  rw [List.append_assoc] at ended
  refine ⟨_, _, _, engine.converse_buildImpact_lookups collaborators said changed delivered ended,
    ?_, fun _ => engine.mem_affected_impactOf⟩
  intro exchange member
  rcases List.mem_cons.mp member with rfl | later
  · rfl
  · exact asks exchange later

/-- Without a graph, the changed files are what is affected. -/
theorem converse_buildImpact_error {cause : GraphError} {project : String}
    (changed : List String) (failed : collaborators said (.graph project) = .error cause) :
    (engine.buildImpact changed project).converse collaborators said =
      (.ok ⟨.ofChanged changed, [graphWarning project cause]⟩,
        said ++ [graphExchange collaborators said project]) := by
  rw [buildImpact, Plan.converse_bind, converse_requestGraph, failed]
  rfl

/-- The files that a change affects, as far as the answer of the provider tells. -/
def Affects (depth : Nat) (answer : Except GraphError SymbolGraph) (changed : List String)
    (file : String) : Prop :=
  match answer with
  | .ok graph => Reachable graph depth changed file
  | .error _ => file ∈ changed

/-- Building an impact never stops the plan, runs nothing, and finds what a change
affects. -/
theorem converse_buildImpact (changed : List String) (project : String) :
    ∃ impact warnings heard, (engine.buildImpact changed project).converse collaborators said =
        (.ok ⟨impact, warnings⟩, said ++ heard) ∧
      (∀ exchange ∈ heard, exchange.call.asks = true) ∧
      ∀ file, file ∈ impact.affected ↔
        Affects engine.resolver.depth (collaborators said (.graph project)) changed file := by
  cases answered : collaborators said (.graph project) with
  | ok graph => exact engine.converse_buildImpact_graph collaborators said changed answered
  | error cause =>
      refine ⟨_, _, _, engine.converse_buildImpact_error collaborators said changed answered,
        ?_, fun file => mem_firstOccurrences file changed⟩
      intro exchange member
      obtain rfl := List.mem_singleton.mp member
      rfl

/-- For a snapshot that the provider delivers, the files affected by a change are
those within the depth of a changed file, whatever the other collaborators answer. -/
theorem affected_iff_reachable (snapshot : Snapshot) (changed : List String)
    (project : String)
    (delivered : collaborators [] (.graph project) = .ok (.ofSnapshot snapshot)) :
    ∃ impact warnings heard, (engine.buildImpact changed project).converse collaborators [] =
        (.ok ⟨impact, warnings⟩, heard) ∧
      ∀ file, file ∈ impact.affected ↔
        Reachable (.ofSnapshot snapshot) (max engine.config.depth 1) changed file := by
  obtain ⟨impact, warnings, heard, ended, _, affected⟩ :=
    engine.converse_buildImpact_graph collaborators [] changed delivered
  exact ⟨impact, warnings, heard, ended, affected⟩

/-- A chain of files that comes back to its first, with a file changed that the
graph does not know. -/
theorem affected_iff_reachable_chain :
    let engine : Engine := ⟨.ofLanguages [] [], .usual, false, Glob.nestingLimit⟩
    let snapshot : Snapshot :=
      ⟨[⟨"a", "", .function, "a.go", 1⟩, ⟨"b", "", .function, "b.go", 1⟩,
        ⟨"c", "", .function, "c.go", 1⟩, ⟨"d", "", .function, "d.go", 1⟩,
        ⟨"e", "", .function, "e.go", 1⟩],
       [⟨"a", "b", .calls⟩, ⟨"b", "c", .calls⟩, ⟨"c", "d", .calls⟩, ⟨"d", "e", .calls⟩,
        ⟨"e", "a", .calls⟩]⟩
    let script : Script := ⟨.ok (.ofSnapshot snapshot), [], fun _ => .ok [], fun _ => .ok false⟩
    let collaborators := Collaborators.fixed script.answers
    let changed := ["a.go", "notes.md", "a.go"]
    collaborators [] (.graph "/shop") = .ok (.ofSnapshot snapshot) ∧
      ∃ impact warnings heard, (engine.buildImpact changed "/shop").converse collaborators [] =
          (.ok ⟨impact, warnings⟩, heard) ∧
        ∀ file, file ∈ impact.affected ↔
          Reachable (.ofSnapshot snapshot) (max engine.config.depth 1) changed file :=
  ⟨rfl, affected_iff_reachable _ _ _ _ "/shop" rfl⟩

end TestImpact.Engine
