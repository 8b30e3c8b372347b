import TestImpact.Testing.Test

/-!
# Settings of a run

A run is asked for one language and one project. Patterns narrow the tests: if
any are given a path must match one of them, and it must match none of the
patterns that exclude.
-/

namespace TestImpact.Testing

open Json (Codec)
open Listing (Dictionary)

/-- The settings of one run. -/
structure RunConfig where
  language : String
  project : String
  scope : Scope
  parallel : Bool
  /-- The time that a runner may take for a test, in seconds. -/
  timeout : Option Nat
  coverage : Bool
  verbose : Bool
  environment : Dictionary String
  /-- Patterns of which a test path has to match one, if there are any. -/
  included : List String
  /-- Patterns of which a test path may match none. -/
  excluded : List String
  deriving DecidableEq

namespace RunConfig

def plain (language project : String) (scope : Scope) : RunConfig :=
  ⟨language, project, scope, false, none, false, false, .empty, [], []⟩

def fields : List (Json.Field RunConfig) :=
  [.required "language" Json.textCodec language fun value config =>
     { config with language := value },
   .required "project_path" Json.textCodec project fun value config =>
     { config with project := value },
   .defaulted "scope" Scope.codec scope fun value config => { config with scope := value },
   .defaulted "parallel" Json.flagCodec parallel fun value config =>
     { config with parallel := value },
   .defaulted "timeout_secs" (Json.optionalCodec Json.naturalCodec) timeout
     fun value config => { config with timeout := value },
   .defaulted "coverage" Json.flagCodec coverage fun value config =>
     { config with coverage := value },
   .defaulted "verbose" Json.flagCodec verbose fun value config =>
     { config with verbose := value },
   .omitted "env_vars" (Json.dictionaryCodec Json.textCodec) environment
     (fun value config => { config with environment := value }) Dictionary.isEmpty,
   .omitted "test_patterns" Json.textsCodec included
     (fun value config => { config with included := value }) List.isEmpty,
   .omitted "exclude_patterns" Json.textsCodec excluded
     (fun value config => { config with excluded := value }) List.isEmpty]

def codec : Codec RunConfig := Json.recordCodec fields (plain "" "" .all)

end RunConfig

/-- The tests that a runner is to run in one batch. -/
structure Suite where
  name : String
  language : String
  project : String
  tests : List Test
  config : Option RunConfig
  deriving DecidableEq

namespace Suite

def fields : List (Json.Field Suite) :=
  [.required "name" Json.textCodec name fun value suite => { suite with name := value },
   .required "language" Json.textCodec language fun value suite =>
     { suite with language := value },
   .required "project_path" Json.textCodec project fun value suite =>
     { suite with project := value },
   .required "tests" (Json.listCodec Test.codec) tests fun value suite =>
     { suite with tests := value },
   .omitted "config" (Json.optionalCodec RunConfig.codec) config
     (fun value suite => { suite with config := value }) Option.isNone]

def codec : Codec Suite := Json.recordCodec fields ⟨"", "", "", [], none⟩

def ofProject (language project : String) (tests : List Test) : Suite :=
  ⟨Path.displayName project, language, project, tests, none⟩

end Suite

end TestImpact.Testing
