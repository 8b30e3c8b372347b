import TestImpact.Proofs.Affected.Accounting
import TestImpact.Proofs.Engine.Cancellation

/-!
# The shape of an impact

An impact begins with the changed files. With a graph it goes on with what each of them
leads to, in order and without repetition, and the dependencies have one entry for each
changed file. Without one it stays with the changed files, and no analyzer is asked.
Nothing but a cancellation keeps an impact from being built.
-/

namespace TestImpact

open Listing (Dictionary firstOccurrences foldl_collect firstOccurrences_flatMap
  filter_firstOccurrences mem_firstOccurrences nodup_firstOccurrences pairwise_ascending)
open Reach (Resolver)

/-- What a changed file leads to: the files that it references, then those further away in
the order of discovery. -/
def Reach.Resolver.led (resolver : Resolver) (graph : SymbolGraph) (file : String) :
    List String :=
  Resolver.direct graph file ++ (resolver.traverse graph (Resolver.direct graph file)).discovered

/-- An impact whose changed files were followed through a graph. -/
structure Impact.Follows (impact : Impact) (resolver : Resolver) (graph : SymbolGraph)
    (changed : List String) : Prop where
  /-- The dependencies are those of the changed files. -/
  mem_keys : ∀ file, file ∈ impact.dependencies.keys ↔ file ∈ changed
  /-- They are the files that are referenced directly, in ascending order. -/
  direct : ∀ file ∈ changed, ∃ direct, impact.dependencies.get? file = some direct ∧
    direct.Pairwise (· < ·) ∧ ∀ target, target ∈ direct ↔ graph.FileStep file target
  /-- Every file they name is affected. -/
  named : ∀ file direct, impact.dependencies.get? file = some direct → direct ⊆ impact.affected
  /-- Only affected files are covered. -/
  covered : impact.coverage.keys ⊆ impact.affected
  /-- Behind the changed files stand those they lead to. -/
  affected_eq : impact.affected = firstOccurrences changed ++
    firstOccurrences ((changed.flatMap (resolver.led graph)).filter (· ∉ changed))

namespace Engine

variable (engine : Engine) (collaborators : Collaborators) (said : List Exchange)

section Reached

variable (graph : SymbolGraph) (changed : List String)

theorem affected_impactOf :
    (impactOf changed ((firstOccurrences changed).map (engine.reachedFrom graph))).affected =
      firstOccurrences changed ++
        firstOccurrences ((changed.flatMap (engine.resolver.led graph)).filter
          (· ∉ changed)) := by
  have led : ((firstOccurrences changed).map (engine.reachedFrom graph)).flatMap
      (fun item => item.direct ++ item.indirect) =
        (firstOccurrences changed).flatMap (engine.resolver.led graph) := by
    rw [List.flatMap_map]
    rfl
  have beyond (file : String) :
      decide (file ∉ firstOccurrences changed) = decide (file ∉ changed) :=
    decide_eq_decide.mpr (not_congr (mem_firstOccurrences file changed))
  have collected : (impactOf changed
      ((firstOccurrences changed).map (engine.reachedFrom graph))).affected = _ :=
    foldl_collect _ _
  rw [collected, led, firstOccurrences_flatMap, ← filter_firstOccurrences]
  exact congrArg _ (List.filter_congr fun file _ => beyond file)

theorem mem_keys_dependencies_impactOf (file : String) :
    file ∈ (impactOf changed
      ((firstOccurrences changed).map (engine.reachedFrom graph))).dependencies.keys ↔
        file ∈ changed := by
  rw [impactOf, Dictionary.mem_keys_ofList]
  simp [reachedFrom]

theorem get?_dependencies_impactOf (file : String) :
    (impactOf changed
      ((firstOccurrences changed).map (engine.reachedFrom graph))).dependencies.get? file =
        if file ∈ changed then some (Resolver.direct graph file) else none := by
  have follow : ∀ entry ∈ ((firstOccurrences changed).map (engine.reachedFrom graph)).map
      (fun item => (item.file, item.direct)), some (Resolver.direct graph entry.1) =
        some entry.2 := by
    intro entry listed
    obtain ⟨item, found, rfl⟩ := List.mem_map.mp listed
    obtain ⟨origin, _, rfl⟩ := List.mem_map.mp found
    rfl
  rw [impactOf, Dictionary.get?_ofList (fun file => some (Resolver.direct graph file)) follow]
  simp [reachedFrom]

/-- What a changed file leads to is affected. -/
theorem led_subset_affected_impactOf {file : String} (changes : file ∈ changed) :
    engine.resolver.led graph file ⊆ (impactOf changed
      ((firstOccurrences changed).map (engine.reachedFrom graph))).affected := by
  intro target led
  rw [affected_impactOf, List.mem_append, mem_firstOccurrences, mem_firstOccurrences,
    List.mem_filter, decide_eq_true_eq]
  by_cases also : target ∈ changed
  · exact .inl also
  · exact .inr ⟨List.mem_flatMap.mpr ⟨file, changes, led⟩, also⟩

/-- Whatever is covered of the affected files, the changed files were followed. -/
theorem follows_impactOf {coverage : Dictionary (List String)}
    (covered : coverage.keys ⊆ (impactOf changed
      ((firstOccurrences changed).map (engine.reachedFrom graph))).affected) :
    { impactOf changed ((firstOccurrences changed).map (engine.reachedFrom graph)) with
      coverage := coverage }.Follows engine.resolver graph changed where
  mem_keys := engine.mem_keys_dependencies_impactOf graph changed
  direct := by
    intro file changes
    refine ⟨Resolver.direct graph file, ?_, pairwise_ascending _,
      fun _ => SymbolGraph.mem_filesReferencedBy⟩
    exact (engine.get?_dependencies_impactOf graph changed file).trans (if_pos changes)
  named := by
    intro file direct found target member
    rw [get?_dependencies_impactOf] at found
    obtain ⟨changes, same⟩ := Option.ite_none_right_eq_some.mp found
    cases same
    exact engine.led_subset_affected_impactOf graph changed changes
      (List.mem_append_left _ member)
  covered := covered
  affected_eq := engine.affected_impactOf graph changed

end Reached

theorem coverageOf_keys_subset (found : String → Lookup) (files : List String) :
    (coverageOf (files.map fun file => (file, found file))).keys ⊆ files := by
  intro file covered
  obtain ⟨tests, named⟩ := (Dictionary.mem_keys_iff _ file).mp covered
  rw [get?_coverageOf_map] at named
  exact (Option.ite_none_right_eq_some.mp named).1

/-- What is built from an answer of the provider. It names the changed files as they were
given, and its affected files are distinct and begin with them. Without a graph that is all,
one warning tells so, and nothing else is asked; with one, the changed files are followed. -/
def Shapes (engine : Engine) (project : String) (changed : List String)
    (answer : Except GraphError SymbolGraph) (built : Diagnosed Impact)
    (heard : List Exchange) : Prop :=
  built.value.changed = changed ∧ built.value.affected.Nodup ∧
    firstOccurrences changed <+: built.value.affected ∧
    match answer with
    | .error cause =>
        built.value.affected = firstOccurrences changed ∧ built.value.dependencies = .empty ∧
          built.value.coverage = .empty ∧ built.warnings = [graphWarning project cause] ∧
          heard = [⟨.graph project, .error cause⟩]
    | .ok graph => built.value.Follows engine.resolver graph changed

theorem converse_buildImpact_shapes (changed : List String) (project : String) :
    ∃ built heard,
      (engine.buildImpact changed project).converse collaborators said =
        (.ok built, said ++ heard) ∧
      engine.Shapes project changed (collaborators said (.graph project)) built heard := by
  cases answered : collaborators said (.graph project) with
  | error cause =>
      refine ⟨_, _, engine.converse_buildImpact_error collaborators said changed answered, rfl,
        nodup_firstOccurrences changed, List.prefix_rfl, rfl, rfl, rfl, rfl, ?_⟩
      rw [graphExchange, answered]
  | ok graph =>
      obtain ⟨found, _, ended⟩ :=
        engine.converse_buildImpact_found collaborators said changed answered
      refine ⟨_, _, ended, rfl, nodup_affected_impactOf changed _, ?_, ?_⟩
      · dsimp only
        rw [affected_impactOf]
        exact List.prefix_append _ _
      · exact engine.follows_impactOf graph changed (coverageOf_keys_subset found _)

end Engine

end TestImpact
