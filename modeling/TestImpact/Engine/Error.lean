import TestImpact.EngineConfig
import TestImpact.Failure

/-!
# Errors of the engine

An error ends a call to the engine. Failures of collaborators that do not end it
are warnings instead.
-/

namespace TestImpact

/-- Why a call to the engine ended without a result. -/
inductive EngineError where
  | noRunner (language : String)
  | noAnalyzer (language : String)
  | unsupportedFileType (type : String)
  | discovery (cause : Failure)
  | execution (cause : Failure)
  | testLookup (file : String) (cause : Failure)
  | cancelled
  | graph (cause : GraphError)
  | invalidConfig (cause : ConfigFault)
  | access (cause : AccessError)
  deriving DecidableEq, Repr

namespace EngineError

def message : EngineError → String
  | noRunner language => "no test runner registered for language: " ++ language
  | noAnalyzer language => "no test analyzer registered for language: " ++ language
  | unsupportedFileType type => "unsupported file type: " ++ type
  | discovery cause => "failed to discover tests: " ++ cause.message
  | execution cause => "failed to run test suite: " ++ cause.message
  | testLookup file cause => "failed to find tests for " ++ file ++ ": " ++ cause.message
  | cancelled => "operation cancelled"
  | graph cause => "Graph error: " ++ cause.message
  | invalidConfig cause => "Invalid config: " ++ cause.message
  | access cause => "IO error: " ++ cause.message

def ofGraph : GraphError → EngineError
  | .cancelled => cancelled
  | cause => graph cause

def ofLoad : EngineConfig.LoadError → EngineError
  | .access cause => access cause
  | .fault cause => invalidConfig cause

end EngineError

end TestImpact
