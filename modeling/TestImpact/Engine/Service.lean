import TestImpact.Affected.Build
import TestImpact.Engine.Run

/-!
# Runs for changes and scopes

A targeted scope with changed files goes through the impact of the change. Every
other run is a full one, narrowed by its scope.
-/

namespace TestImpact.Engine

open Testing

def serve (engine : Engine) (config : RunConfig) (changed : List String) :
    Plan (Diagnosed (List TestResult)) := do
  if config.scope.isTargeted && !changed.isEmpty then
    let impact ← engine.buildImpact changed config.project
    let results ← engine.runTargeted config impact.value
    return results.after impact.warnings
  else engine.runTests config

def runSmokeTests (engine : Engine) (project language : String) :
    Plan (Diagnosed (List TestResult)) :=
  engine.runTests
    { RunConfig.plain language project .smoke with
      timeout := some engine.config.smokeTimeout, verbose := true }

def runUnitTests (engine : Engine) (project language : String) :
    Plan (Diagnosed (List TestResult)) :=
  engine.runTests
    { RunConfig.plain language project .unit with
      timeout := some engine.config.unitTimeout, coverage := true }

def runIntegrationTests (engine : Engine) (project language : String) :
    Plan (Diagnosed (List TestResult)) :=
  engine.runTests
    { RunConfig.plain language project .integration with
      timeout := some engine.config.integrationTimeout, verbose := true }

end TestImpact.Engine
