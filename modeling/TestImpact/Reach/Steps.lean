/-!
# Steps between files

A walk through a program goes from file to file. All it needs to know is which
files one step leads to, and that steps leave only finitely many files.
-/

namespace TestImpact.Reach

/-- Steps between files. -/
structure Steps where
  /-- The files that steps may leave. -/
  files : List String
  /-- The files that one step leads to. -/
  next : String → List String
  next_outside : ∀ file, file ∉ files → next file = []

end TestImpact.Reach
