import TestImpact.Affected.Build
import TestImpact.CommandLine.Arguments
import TestImpact.Go.Analyzer

/-!
# Carrying out commands

A command reads files through a disk and ends with an exit status and a text. A
status of 1 comes with the reason, unless it says that tests failed.
-/

namespace TestImpact.CommandLine

open Testing

/-- How a command line ends. -/
structure Outcome where
  status : Nat
  /-- What is printed. -/
  output : String
  /-- Why the command could not be carried out. -/
  failure : Option Failure
  deriving DecidableEq, Repr

namespace Outcome

def printed (value : Json) : Outcome := ⟨0, value.toPrettyText ++ "\n", none⟩

def failed (reasons : List String) : Outcome := ⟨1, "", some ⟨reasons⟩⟩

end Outcome

def versionText : String := "context-tests 0.1.1\n"

def helpText : String :=
  "Affected-test selection from a symbol graph\n\n" ++
  "Usage: context-tests [OPTIONS] <COMMAND>\n\n" ++
  "Commands:\n" ++
  "  affected <FILES>...  Build the affected graph for a set of changed files\n" ++
  "  imports <TEST>       List imports of a Go test file\n" ++
  "  languages            List languages with analyzers and runners\n" ++
  "  validate <RESULTS>   Summarise a JSON array of test results\n"

/-- What a command line knows of its surroundings. -/
structure Surroundings (m : Type → Type) where
  disk : Disk m
  /-- The directory in which the program runs. -/
  directory : String
  /-- The depth in the environment. -/
  depth : EnvironmentValue
  /-- The text on standard input. -/
  input : m (Except AccessError String)

variable {m : Type → Type} [Monad m]

def analyzedLanguage : SourceLanguage := .go

/-- The registry of the program: one analyzer, and nobody who runs tests. -/
def registry : Registry := .ofLanguages [] [analyzedLanguage.name]

def answers (disk : Disk m) (analyzer : Go.Analyzer) (snapshot : SnapshotFile) : Answers m
  | .graph project => snapshot.load disk project
  | .findTests _ file project => do return .ok (← Go.Analyzer.testsOf disk project file)
  | .isSmoke _ test => Go.Analyzer.isSmoke disk analyzer test
  | .discover _ _ => return .ok []
  | .runSuite _ => return .ok []
  | .runTest _ _ => return .error ⟨["no test runner"]⟩

def impactMembers (impact : Diagnosed Impact) : List (String × Json) :=
  impact.members Impact.codec.write ++ [("tests", Json.texts impact.value.tests)]

def runAffected (around : Surroundings m) (config : EngineConfig) (files : List String)
    (project : String) (graph : Option String) : m Outcome := do
  match ← around.disk.canonical project with
  | .error cause => return .failed ["Invalid project path " ++ project, cause.message]
  | .ok place =>
      let snapshot : SnapshotFile := ⟨graph.map (Path.join around.directory)⟩
      let analyzer := (Go.Analyzer.ofRoot place).withMarkers config.markers
      let engine : Engine := ⟨registry, config, true, Glob.nestingLimit⟩
      let (outcome, _) ← (engine.buildImpact files place).run
        (answers around.disk analyzer snapshot) .never []
      match outcome with
      | .ok impact => return .printed (.object (impactMembers impact))
      | .error cause => return .failed [cause.message]

def runImports (around : Surroundings m) (test project : String) : m Outcome := do
  match ← (Go.Analyzer.ofRoot project).importsOfTest around.disk test with
  | .error cause => return .failed cause.reasons
  | .ok imports =>
      return .printed (.object [("test", .string test), ("imports", Json.texts imports)])

def runLanguages : Outcome :=
  .printed (.object
    [("analyzers", Json.texts registry.analyzers), ("runners", Json.texts registry.runners)])

def parseResults (text : String) : Except Json.Fault (List TestResult) :=
  (Json.listCodec TestResult.codec).decode text

/-- Prints the summary of results, and fails if asked to when tests failed. -/
def summarise (text : String) (strict : Bool) : Outcome :=
  match parseResults text with
  | .error _ => .failed ["Results must be a JSON array of test results"]
  | .ok results =>
      let summary := Summary.ofResults results
      { Outcome.printed (Summary.codec.write summary) with
        status := if strict && !summary.success then 1 else 0 }

/-- Summarises the results in a file, or on standard input for a hyphen. -/
def runValidate (around : Surroundings m) (results : String) (strict : Bool) : m Outcome := do
  if results = "-" then
    match ← around.input with
    | .ok text => return summarise text strict
    | .error cause => return .failed ["Failed to read results from stdin", cause.message]
  else
    match ← around.disk.readText results with
    | .ok text => return summarise text strict
    | .error cause => return .failed ["Failed to read " ++ results, cause.message]

def runCommand (around : Surroundings m) (config : EngineConfig) : Command → m Outcome
  | .affected files project graph => runAffected around config files project graph
  | .imports test project => runImports around test project
  | .languages => return runLanguages
  | .validate results strict => runValidate around results strict

def run (around : Surroundings m) (arguments : List String) : m Outcome := do
  match parse arguments with
  | .error .usage => return ⟨2, "", none⟩
  | .error .help => return ⟨0, helpText, none⟩
  | .error .version => return ⟨0, versionText, none⟩
  | .ok invocation =>
      match ← EngineConfig.load around.disk invocation.config around.depth with
      | .error cause =>
          return .failed ["Failed to load engine config", (EngineError.ofLoad cause).message]
      | .ok config => runCommand around config invocation.command

end TestImpact.CommandLine
