import TestImpact.Engine.Error
import TestImpact.Testing.Result

/-!
# Calls to collaborators

The engine leaves the work that hangs on a language to a runner and an analyzer,
and the symbol graph to a provider. A call names one question or order to them;
its answer is their value, or the failure that kept them from it.
-/

namespace TestImpact

open Testing

/-- A call to a collaborator. -/
inductive Call where
  /-- Builds the symbol graph of a project. -/
  | graph (project : String)
  /-- Asks an analyzer for the tests that cover a file. -/
  | findTests (language file project : String)
  /-- Asks an analyzer whether a test is a smoke test. -/
  | isSmoke (language test : String)
  /-- Asks a runner for the tests of a project. -/
  | discover (language project : String)
  /-- Has a runner run tests in one batch. -/
  | runSuite (suite : Suite)
  /-- Has a runner run one test. -/
  | runTest (test : String) (config : RunConfig)
  deriving DecidableEq

namespace Call

abbrev Answer : Call → Type
  | graph _ => Except GraphError SymbolGraph
  | findTests _ _ _ => Except Failure (List String)
  | isSmoke _ _ => Except Failure Bool
  | discover _ _ => Except Failure (List Test)
  | runSuite _ => Except Failure (List TestResult)
  | runTest _ _ => Except Failure TestResult

end Call

abbrev Answers (m : Type → Type) := (call : Call) → m call.Answer

end TestImpact
