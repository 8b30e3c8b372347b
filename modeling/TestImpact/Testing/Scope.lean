import TestImpact.Json.Codec
import TestImpact.Text.Blank
import TestImpact.Text.Lowercase

/-!
# Scopes

A scope says which tests a run covers. Its name is written in one way and read
in two: the sign between the two words of the last scope may be a plus or a
hyphen.
-/

namespace TestImpact.Testing

/-- Which tests a run covers. -/
inductive Scope where
  | all
  | unit
  | integration
  | smoke
  /-- The tests that cover affected files. -/
  | affected
  /-- The tests that cover affected files, after every smoke test. -/
  | affectedSmoke
  deriving DecidableEq, Repr, Inhabited

namespace Scope

def name : Scope → String
  | all => "all"
  | unit => "unit"
  | integration => "integration"
  | smoke => "smoke"
  | affected => "affected"
  | affectedSmoke => "affected+smoke"

def ofName? (written : String) : Option Scope :=
  if written = "affected-smoke" then some affectedSmoke
  else [all, unit, integration, smoke, affected, affectedSmoke].find? (·.name = written)

theorem ofName?_name (scope : Scope) : ofName? scope.name = some scope := by
  cases scope <;> decide

def codec : Json.Codec Scope := Json.choiceCodec name ofName?

/-- Reads a scope as a person types it, blanks and letter case aside; what is not
a scope is given back as it was looked up. -/
def parse (typed : String) : Except String Scope :=
  let written := Text.lowercaseAscii (Text.trim typed)
  match ofName? written with
  | some scope => .ok scope
  | none => .error written

def unknownMessage (written : String) : String :=
  "unknown test scope '" ++ written ++
    "' (expected all|unit|integration|smoke|affected|affected+smoke)"

def isTargeted (scope : Scope) : Bool := scope = affected || scope = affectedSmoke

def includesSmoke (scope : Scope) : Bool := scope = smoke || scope = affectedSmoke

end Scope

end TestImpact.Testing
