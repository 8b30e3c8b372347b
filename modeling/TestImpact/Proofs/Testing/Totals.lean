import Mathlib.Logic.Basic
import TestImpact.Testing.Result

/-!
# What a summary counts

Every result is counted once, as passed or as failed, and the paths of those that failed
stand in the order of the results, as often as they failed. So a batch that is put together
from two has their counts together, and it succeeds if both do.
-/

namespace TestImpact.Testing

/-- The paths of the results that failed, in order and as often. -/
inductive FailedPaths : List TestResult → List String → Prop where
  | none : FailedPaths [] []
  | passed {result : TestResult} {results : List TestResult} {paths : List String}
      (passes : result.success = true) (rest : FailedPaths results paths) :
      FailedPaths (result :: results) paths
  | failed {result : TestResult} {results : List TestResult} {paths : List String}
      (fails : result.success = false) (rest : FailedPaths results paths) :
      FailedPaths (result :: results) (result.path :: paths)

namespace FailedPaths

variable {results : List TestResult} {paths : List String}

theorem countP_add_length (listed : FailedPaths results paths) :
    results.countP TestResult.success + paths.length = results.length := by
  induction listed with
  | none => rfl
  | passed passes rest ih =>
      rw [List.countP_cons_of_pos passes, List.length_cons]
      omega
  | failed fails rest ih =>
      rw [List.countP_cons_of_neg (Bool.not_eq_true _ ▸ fails), List.length_cons, List.length_cons]
      omega

theorem eq_nil_iff (listed : FailedPaths results paths) :
    paths = [] ↔ ∀ result ∈ results, result.success = true := by
  induction listed with
  | none => simp
  | passed passes rest ih => rw [ih, List.forall_mem_cons, and_iff_right passes]
  | failed fails rest ih =>
      refine ⟨nofun, fun all => ?_⟩
      cases fails.symm.trans (all _ List.mem_cons_self)

end FailedPaths

namespace Summary

/-- What is counted in a summary of results, apart from rates and durations. -/
structure Counts (summary : Summary) (results : List TestResult) : Prop where
  total : summary.total = results.length
  /-- Every result passed or failed. -/
  outcomes : summary.passed + summary.failed = summary.total
  failures : FailedPaths results summary.failures
  failed : summary.failed = summary.failures.length
  success : summary.success = true ↔ summary.failures = []

/-- What a summary counts is what two others count, those of the first in front. -/
structure Joins (whole first second : Summary) : Prop where
  total : whole.total = first.total + second.total
  passed : whole.passed = first.passed + second.passed
  failed : whole.failed = first.failed + second.failed
  failures : whole.failures = first.failures ++ second.failures
  success : whole.success = (first.success && second.success)

theorem failedPaths_ofResults (results : List TestResult) :
    FailedPaths results (ofResults results).failures := by
  induction results with
  | nil => exact .none
  | cons result results ih =>
      cases passes : result.success with
      | true =>
          have skipped : (ofResults (result :: results)).failures = (ofResults results).failures := by
            simp [ofResults, passes]
          exact skipped ▸ .passed passes ih
      | false =>
          have listed : (ofResults (result :: results)).failures =
              result.path :: (ofResults results).failures := by
            simp [ofResults, passes]
          exact listed ▸ .failed passes ih

theorem counts_ofResults (results : List TestResult) : (ofResults results).Counts results where
  total := rfl
  outcomes := (failedPaths_ofResults results).countP_add_length
  failures := failedPaths_ofResults results
  failed := rfl
  success := List.isEmpty_iff

/-- A summary tells a failure exactly if some result failed. -/
theorem success_ofResults_eq_false_iff (results : List TestResult) :
    (ofResults results).success = false ↔ ∃ result ∈ results, result.success = false := by
  rw [← Bool.not_eq_true, (counts_ofResults results).success,
    (failedPaths_ofResults results).eq_nil_iff]
  simp only [not_forall, exists_prop, Bool.not_eq_true]

theorem joins_ofResults_append (first second : List TestResult) :
    (ofResults (first ++ second)).Joins (ofResults first) (ofResults second) := by
  have failures : (ofResults (first ++ second)).failures =
      (ofResults first).failures ++ (ofResults second).failures := by
    simp only [ofResults, List.filter_append, List.map_append]
  have success : (ofResults (first ++ second)).failures.isEmpty =
      ((ofResults first).failures.isEmpty && (ofResults second).failures.isEmpty) := by
    rw [failures]
    cases (ofResults first).failures <;> rfl
  exact {
    total := List.length_append
    passed := List.countP_append
    failed := (congrArg List.length failures).trans List.length_append
    failures
    success }

end Summary

end TestImpact.Testing
