import Mathlib
import TestImpact.Engine.Service
import TestImpact.Proofs.Affected.Extent
import TestImpact.Proofs.Engine.Targeted

/-!
# Runs for a change

A run for a change misses no test: with answers that hang on the calls alone, it runs
exactly the allowed tests that cover a file within reach of the change. If there are
none, it runs every allowed test of the project.
-/

namespace TestImpact.Engine

open Listing (firstOccurrences)
open Testing

variable {engine : Engine} {config : RunConfig} {answers : Answers Id}

def Covers (answers : Answers Id) (config : RunConfig) (file test : String) : Prop :=
  ∃ tests, answers (lookupCall config file) = .ok tests ∧ test ∈ tests

/-- With answers that hang on the calls alone, the tests found are those that cover
one of the files. -/
theorem mem_testsFound_interview {said : List Exchange} {files : List String}
    {test : String} :
    test ∈ testsFound ((Collaborators.fixed answers).interview said
        (files.map (lookupCall config))) ↔
      ∃ file ∈ files, Covers answers config file test := by
  have steady : LooksUp (.fixed answers) config fun file => answers (lookupCall config file) :=
    fun _ _ => rfl
  rw [testsFound_interview said steady, List.mem_flatMap]
  refine exists_congr fun file => and_congr_right fun _ => ?_
  rw [Covers]
  cases answers (lookupCall config file) with
  | error cause => simp [Except.toOption]
  | ok tests =>
      constructor
      · intro found
        exact ⟨tests, rfl, found⟩
      · rintro ⟨_, same, found⟩
        cases same
        exact found

/-- The scope of affected files does not narrow a full run. -/
theorem selectedSuite_of_affected (scope : config.scope = .affected) (filter : PathFilter)
    (tests : List Test) :
    selectedSuite config filter tests =
      { Suite.ofProject config.language config.project
          (tests.filter fun test => filter.allows test.path) with config := some config } := by
  have all : inScope tests config.scope = tests := by
    rw [scope, inScope, List.filter_eq_self]
    exact fun _ _ => rfl
  rw [selectedSuite, all]

/-- A run for a change is a targeted run for its impact. -/
theorem converse_serve (scope : config.scope = .affected) {changed : List String}
    (changes : changed ≠ []) {collaborators : Collaborators} {said heard : List Exchange}
    {impact : Impact} {warnings : List Warning}
    (built : (engine.buildImpact changed config.project).converse collaborators said =
      (.ok ⟨impact, warnings⟩, heard)) :
    (engine.serve config changed).converse collaborators said =
      Prod.map (Except.map (Diagnosed.after warnings)) id
        ((engine.runTargeted config impact).converse collaborators heard) := by
  have targeted : (config.scope.isTargeted && !changed.isEmpty) = true := by
    simp [scope, Scope.isTargeted, changes]
  rw [serve, if_pos targeted, Plan.converse_bind, built]
  exact Plan.converse_bind_pure _ _ _ _

def Wanted (engine : Engine) (answers : Answers Id) (config : RunConfig) (filter : PathFilter)
    (changed : List String) (test : String) : Prop :=
  (∃ file, Affects (max engine.config.depth 1) (answers (.graph config.project)) changed file ∧
    Covers answers config file test) ∧ filter.allows test = true

theorem mem_selected_iff_wanted (scope : config.scope = .affected) {filter : PathFilter}
    {changed files : List String} {said : List Exchange}
    (affected : ∀ file, file ∈ files ↔
      Affects (max engine.config.depth 1) (answers (.graph config.project)) changed file)
    (prepared : Preparation config files)
    (looked : prepared.lookups =
      (Collaborators.fixed answers).interview said (files.map (lookupCall config)))
    {test : String} :
    test ∈ prepared.selected filter ↔ Wanted engine answers config filter changed test := by
  have silent : test ∉ smokeFound prepared.search := by
    rw [search_eq_nil scope prepared.searched]
    exact List.not_mem_nil
  rw [prepared.mem_selected, or_iff_right silent, looked, mem_testsFound_interview, Wanted]
  simp only [affected]

end TestImpact.Engine
