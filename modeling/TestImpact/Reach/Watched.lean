import TestImpact.Engine.Plan
import TestImpact.Reach.Resolver

/-!
# Walks that can be cancelled

A walk through a large graph takes its time, so it asks before each of its rounds
whether it is cancelled. A cancelled walk is an error of the graph and gives no part
of what it found; a walk that is let go on finds what the plain one finds.
-/

namespace TestImpact.Reach

/-- Works off the queue of files with their depths, unless it is cancelled. -/
def exploreWatched (steps : Steps) (bound : Nat) (start : List String) :
    (queue : List (String × Nat)) → Traversal → Plan (Except GraphError Traversal)
  | [], found => .done (.ok found)
  | (file, depth) :: queue, found =>
      .checkpoint fun cancelled =>
        if cancelled then .done (.error .cancelled)
        else if bound ≤ depth ∨ file ∈ found.visited then
          exploreWatched steps bound start queue { found with rounds := found.rounds + 1 }
        else
          exploreWatched steps bound start
            (queue ++ entries (fresh steps (found.visited ++ [file]) file) (depth + 1))
            (expand steps start found file)
termination_by queue found => ((unexpanded steps found.visited).length, queue.length)
decreasing_by
  · exact Prod.Lex.right _ (Nat.lt_succ_self _)
  · rename_i expandable
    exact expand_decreases start queue (depth + 1) fun member => expandable (Or.inr member)

def Resolver.traverseWatched (resolver : Resolver) (graph : SymbolGraph) (start : List String) :
    Plan (Except GraphError Traversal) :=
  if graph.isEmpty then .done (.ok .empty)
  else exploreWatched graph.steps resolver.depth start (entries start 1) .empty

end TestImpact.Reach
