import TestImpact.Json.Codec
import TestImpact.Path
import TestImpact.Testing.Scope

/-!
# Tests

A test is known by the path of its file. The kind it declares decides which of
the narrower scopes select it; a kind that is not known selects nothing.
-/

namespace TestImpact.Testing

open Json (Codec)
open Listing (Dictionary)

/-- The declared kind of a test. -/
inductive TestKind where
  | unit
  | integration
  | smoke
  | other
  deriving DecidableEq, Repr, Inhabited

namespace TestKind

def name : TestKind → String
  | unit => "unit"
  | integration => "integration"
  | smoke => "smoke"
  | other => "other"

/-- The kind with a written name; every other name is a kind of its own. -/
def ofName (written : String) : TestKind :=
  ([unit, integration, smoke].find? (·.name = written)).getD other

theorem ofName_name (kind : TestKind) : ofName kind.name = kind := by
  cases kind <;> decide

def codec : Codec TestKind := Json.choiceCodec name fun written => some (ofName written)

end TestKind

/-- A test that a runner discovered. -/
structure Test where
  path : String
  name : String
  kind : TestKind
  /-- The files that the test says it covers. -/
  targets : List String
  /-- What else the runner knows of the test. -/
  metadata : Dictionary String
  deriving DecidableEq

namespace Test

def fields : List (Json.Field Test) :=
  [.required "path" Json.textCodec path fun value test => { test with path := value },
   .defaulted "name" Json.textCodec name fun value test => { test with name := value },
   .defaulted "type" TestKind.codec kind fun value test => { test with kind := value },
   .omitted "target_files" Json.textsCodec targets
     (fun value test => { test with targets := value }) List.isEmpty,
   .omitted "metadata" (Json.dictionaryCodec Json.textCodec) metadata
     (fun value test => { test with metadata := value }) Dictionary.isEmpty]

/-- Tests have no name and no kind of their own, unless written otherwise. -/
def codec : Codec Test := Json.recordCodec fields ⟨"", "", .other, [], .empty⟩

def ofPath (path : String) (kind : TestKind) : Test :=
  ⟨path, Path.displayName path, kind, [], .empty⟩

end Test

def Scope.kind? : Scope → Option TestKind
  | all => none
  | affected => none
  | affectedSmoke => none
  | unit => some .unit
  | integration => some .integration
  | smoke => some .smoke

def inScope (tests : List Test) (scope : Scope) : List Test :=
  tests.filter fun test => scope.kind?.all (test.kind = ·)

end TestImpact.Testing
