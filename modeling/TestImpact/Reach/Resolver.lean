import TestImpact.Reach.Walk
import TestImpact.SymbolGraph.Query
import TestImpact.SymbolGraph.Source

/-!
# Dependencies of files

A resolver follows references from file to file up to a depth, counted from the
file that was changed. The files that it references directly stand at depth 1;
a walk finds those further away.
-/

namespace TestImpact.Reach

/-- Follows references up to a depth of at least 1. -/
structure Resolver where
  depth : Nat
  depth_pos : 1 ≤ depth
  deriving DecidableEq, Repr

namespace Resolver

def usualDepth : Nat := 3

def ofLimit (limit : Nat) : Resolver := ⟨max limit 1, Nat.le_max_right limit 1⟩

def direct (graph : SymbolGraph) (file : String) : List String := graph.filesReferencedBy file

/-- The walk that starts from files at depth 1. There is none without symbols. -/
def traverse (resolver : Resolver) (graph : SymbolGraph) (start : List String) : Traversal :=
  if graph.isEmpty then .empty else walk graph.steps resolver.depth start

def traverseWhile (resolver : Resolver) (graph : SymbolGraph) (start : List String)
    (cancelled : Bool) : Except GraphError Traversal :=
  let found := resolver.traverse graph start
  if cancelled && found.rounds ≠ 0 then .error .cancelled else .ok found

end Resolver

end TestImpact.Reach
