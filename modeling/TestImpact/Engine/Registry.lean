import TestImpact.Language
import TestImpact.Listing.Ascending
import TestImpact.Text.Quoted

/-!
# Registered languages

A language may have a runner, an analyzer, or both. The registry says which; who
they are is left to those who answer the calls.
-/

namespace TestImpact

open Listing (ascending)

/-- The languages with runners and with analyzers, both ascending. -/
structure Registry where
  runners : List String
  analyzers : List String
  deriving DecidableEq, Repr

namespace Registry

def ofLanguages (runners analyzers : List String) : Registry :=
  ⟨ascending runners, ascending analyzers⟩

def hasRunner (registry : Registry) (language : String) : Bool := language ∈ registry.runners

def hasAnalyzer (registry : Registry) (language : String) : Bool :=
  language ∈ registry.analyzers

def quotedList (names : List String) : String :=
  "[" ++ ", ".intercalate (names.map Text.quoted) ++ "]"

def describe (registry : Registry) : String :=
  "LanguageRegistry \x7b runners: " ++ quotedList registry.runners ++ ", analyzers: " ++
    quotedList registry.analyzers ++ " \x7d"

end Registry

end TestImpact
