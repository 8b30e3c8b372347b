import TestImpact.Reach.Steps

/-!
# The bounded walk

A walk goes breadth first from a list of start files, which stand at depth 1. It
expands every file once and only below its bound, and it reports the files that
it meets beyond the start. Expanding a file takes a file off the finite store of
unexpanded ones, and every other round shortens the queue, so the walk ends for
every bound.
-/

namespace TestImpact.Reach

/-- What a walk found. -/
structure Traversal where
  /-- The files met beyond the start, in the order of discovery. -/
  discovered : List String
  /-- The files whose steps were followed, in order. -/
  visited : List String
  /-- How many entries were taken off the queue. -/
  rounds : Nat
  deriving DecidableEq, Repr

namespace Traversal

def empty : Traversal := ⟨[], [], 0⟩

end Traversal

def discover (start discovered : List String) : List String → List String
  | [] => discovered
  | file :: rest =>
      if file ∈ start ∨ file ∈ discovered then discover start discovered rest
      else discover start (discovered ++ [file]) rest

def unexpanded (steps : Steps) (visited : List String) : List String :=
  steps.files.filter (· ∉ visited)

theorem unexpanded_append (steps : Steps) (visited : List String) (file : String) :
    unexpanded steps (visited ++ [file]) = (unexpanded steps visited).filter (· ≠ file) := by
  simp only [unexpanded, List.filter_filter]
  congr 1
  funext other
  simp [Bool.and_comm]

theorem length_unexpanded_append_le (steps : Steps) (visited : List String) (file : String) :
    (unexpanded steps (visited ++ [file])).length ≤ (unexpanded steps visited).length := by
  rw [unexpanded_append]
  exact List.length_filter_le _ _

theorem length_unexpanded_lt {steps : Steps} {visited : List String} {file : String}
    (known : file ∈ steps.files) (unvisited : file ∉ visited) :
    (unexpanded steps (visited ++ [file])).length < (unexpanded steps visited).length := by
  rw [unexpanded_append]
  exact List.length_filter_lt_length_iff_exists.2
    ⟨file, by simp [unexpanded, known, unvisited], by simp⟩

/-- The files that a step from a file leads to and that are not expanded yet. -/
def fresh (steps : Steps) (visited : List String) (file : String) : List String :=
  (steps.next file).filter (· ∉ visited)

def entries (files : List String) (depth : Nat) : List (String × Nat) :=
  files.map fun file => (file, depth)

def expand (steps : Steps) (start : List String) (found : Traversal) (file : String) :
    Traversal where
  discovered := discover start found.discovered (fresh steps (found.visited ++ [file]) file)
  visited := found.visited ++ [file]
  rounds := found.rounds + 1

/-- Expanding a file leaves fewer files unexpanded, or adds nothing to the queue. -/
theorem expand_decreases {steps : Steps} (start : List String) {found : Traversal}
    {file : String} (queue : List (String × Nat)) (depth : Nat)
    (unvisited : file ∉ found.visited) :
    Prod.Lex (· < ·) (· < ·)
      ((unexpanded steps (expand steps start found file).visited).length,
        (queue ++ entries (fresh steps (found.visited ++ [file]) file) depth).length)
      ((unexpanded steps found.visited).length, queue.length + 1) := by
  by_cases known : file ∈ steps.files
  · exact Prod.Lex.left _ _ (length_unexpanded_lt known unvisited)
  · have noFresh : fresh steps (found.visited ++ [file]) file = [] := by
      simp [fresh, steps.next_outside file known]
    rcases Nat.lt_or_eq_of_le (length_unexpanded_append_le steps found.visited file) with
      less | same
    · exact Prod.Lex.left _ _ less
    · rw [noFresh, expand, same, entries, List.map_nil, List.append_nil]
      exact Prod.Lex.right _ (Nat.lt_succ_self _)

def explore (steps : Steps) (bound : Nat) (start : List String) :
    (queue : List (String × Nat)) → Traversal → Traversal
  | [], found => found
  | (file, depth) :: queue, found =>
      if bound ≤ depth ∨ file ∈ found.visited then
        explore steps bound start queue { found with rounds := found.rounds + 1 }
      else
        explore steps bound start
          (queue ++ entries (fresh steps (found.visited ++ [file]) file) (depth + 1))
          (expand steps start found file)
termination_by queue found => ((unexpanded steps found.visited).length, queue.length)
decreasing_by
  · exact Prod.Lex.right _ (Nat.lt_succ_self _)
  · rename_i expandable
    exact expand_decreases start queue (depth + 1) fun member => expandable (Or.inr member)

def walk (steps : Steps) (bound : Nat) (start : List String) : Traversal :=
  explore steps bound start (entries start 1) .empty

end TestImpact.Reach
