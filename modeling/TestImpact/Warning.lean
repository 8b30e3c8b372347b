import TestImpact.Json.Value

/-!
# Warnings

What goes wrong without stopping the work is kept as a warning beside the
result. Warnings stand in the order in which they arose; those of an earlier
phase come before those of a later one.
-/

namespace TestImpact

/-- What was worked around. -/
inductive WarningKind where
  | symbolGraphUnavailable
  | unsupportedFileType
  | analyzerMissing
  | testLookupFailed
  | smokeDiscoveryFailed
  | smokeCheckFailed
  | noTargetedTests
  | testExecutionFailed
  deriving DecidableEq, Repr

namespace WarningKind

def name : WarningKind → String
  | symbolGraphUnavailable => "symbol_graph_unavailable"
  | unsupportedFileType => "unsupported_file_type"
  | analyzerMissing => "analyzer_missing"
  | testLookupFailed => "test_lookup_failed"
  | smokeDiscoveryFailed => "smoke_discovery_failed"
  | smokeCheckFailed => "smoke_check_failed"
  | noTargetedTests => "no_targeted_tests"
  | testExecutionFailed => "test_execution_failed"

def all : List WarningKind :=
  [symbolGraphUnavailable, unsupportedFileType, analyzerMissing, testLookupFailed,
   smokeDiscoveryFailed, smokeCheckFailed, noTargetedTests, testExecutionFailed]

def ofName? (written : String) : Option WarningKind := all.find? (·.name = written)

theorem ofName?_name (kind : WarningKind) : ofName? kind.name = some kind := by
  cases kind <;> decide

end WarningKind

/-- A problem that was worked around. -/
structure Warning where
  kind : WarningKind
  /-- The file, test or language that the warning is about. -/
  subject : Option String
  message : String
  deriving DecidableEq, Repr

def Warning.toJson (warning : Warning) : Json :=
  .object
    ([("kind", .string warning.kind.name)] ++
      (warning.subject.toList.map fun subject => ("subject", .string subject)) ++
      [("message", .string warning.message)])

/-- A value with the warnings that arose on the way to it. -/
structure Diagnosed (α : Type) where
  value : α
  warnings : List Warning
  deriving DecidableEq, Repr

namespace Diagnosed

variable {α : Type}

def clean (value : α) : Diagnosed α := ⟨value, []⟩

def after (earlier : List Warning) (diagnosed : Diagnosed α) : Diagnosed α :=
  { diagnosed with warnings := earlier ++ diagnosed.warnings }

def has (diagnosed : Diagnosed α) (kind : WarningKind) : Bool :=
  diagnosed.warnings.any (·.kind = kind)

def members (write : α → Json) (diagnosed : Diagnosed α) : List (String × Json) :=
  [("value", write diagnosed.value),
   ("warnings", .array (diagnosed.warnings.map Warning.toJson))]

end Diagnosed

end TestImpact
