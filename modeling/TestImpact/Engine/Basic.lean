import TestImpact.Engine.Plan
import TestImpact.Engine.Registry
import TestImpact.Warning

/-!
# The engine

An engine knows the registered languages and its configuration. What it does is
given as plans.
-/

namespace TestImpact

/-- Selects and runs tests. -/
structure Engine where
  registry : Registry
  config : EngineConfig
  /-- Whether the provider waits while it builds a graph, so that a cancellation
  during the wait ends the plan. -/
  providerWaits : Bool
  /-- Which patterns are refused together. -/
  patternLimit : Glob.Limit

namespace Engine

def resolver (engine : Engine) : Reach.Resolver := .ofLimit engine.config.depth

def requireRunner (engine : Engine) (language : String) : Plan Unit :=
  if engine.registry.hasRunner language then .done () else .stop (.noRunner language)

def requireAnalyzer (engine : Engine) (language : String) : Plan Unit :=
  if engine.registry.hasAnalyzer language then .done () else .stop (.noAnalyzer language)

def failureWarnings {α : Type} (kind : WarningKind)
    (outcomes : List (String × Except Failure α)) : List Warning :=
  outcomes.filterMap fun
    | (_, .ok _) => none
    | (subject, .error cause) => some ⟨kind, some subject, cause.message⟩

end Engine

end TestImpact
