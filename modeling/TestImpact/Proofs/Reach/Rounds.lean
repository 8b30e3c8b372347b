import TestImpact.Proofs.Reach.Exact
import TestImpact.Proofs.Reach.Watched

/-!
# How many rounds a walk takes

The queue of a walk grows while it is worked off, and it may hold one file many times. But
only a file that is expanded puts files into it, at most those that it references, and no
file is expanded twice. So the rounds taken and the entries that still wait stay within a
budget that the expanded files alone determine. Each expanded file lets depths grow by 1 at
most, and none grows beyond the bound.
-/

namespace TestImpact.Reach

/-- A stage of a walk: what waits and what has been found after so many rounds. -/
inductive Stage (steps : Steps) (bound : Nat) (start : List String) :
    Nat → List (String × Nat) → Traversal → Prop where
  | opening : Stage steps bound start 0 (entries start 1) .empty
  | skip {count depth : Nat} {file : String} {queue : List (String × Nat)} {found : Traversal}
      (before : Stage steps bound start count ((file, depth) :: queue) found)
      (idle : bound ≤ depth ∨ file ∈ found.visited) :
      Stage steps bound start (count + 1) queue { found with rounds := found.rounds + 1 }
  | expand {count depth : Nat} {file : String} {queue : List (String × Nat)} {found : Traversal}
      (before : Stage steps bound start count ((file, depth) :: queue) found)
      (expandable : ¬ (bound ≤ depth ∨ file ∈ found.visited)) :
      Stage steps bound start (count + 1)
        (queue ++ entries (fresh steps (found.visited ++ [file]) file) (depth + 1))
        (Reach.expand steps start found file)

def budget (steps : Steps) (start visited : List String) : Nat :=
  start.length + (visited.map fun file => (steps.next file).length).sum

theorem budget_append (steps : Steps) (start visited : List String) (file : String) :
    budget steps start (visited ++ [file]) =
      budget steps start visited + (steps.next file).length := by
  rw [budget, budget, List.map_append, List.sum_append, Nat.add_assoc]
  rfl

theorem length_fresh_le (steps : Steps) (visited : List String) (file : String) :
    (fresh steps visited file).length ≤ (steps.next file).length := List.length_filter_le _ _

/-- What every stage of a walk keeps to. -/
structure Sparing (steps : Steps) (bound : Nat) (start : List String) (count : Nat)
    (queue : List (String × Nat)) (found : Traversal) : Prop where
  within : count + queue.length ≤ budget steps start found.visited
  once : found.visited.Nodup
  below : ∀ entry ∈ queue, entry.2 ≤ bound
  shallow : ∀ entry ∈ queue, entry.2 ≤ 1 + found.visited.length

namespace Sparing

variable {steps : Steps} {bound count depth : Nat} {start : List String} {file : String}
  {queue : List (String × Nat)} {found : Traversal}

theorem opening (positive : 1 ≤ bound) :
    Sparing steps bound start 0 (entries start 1) .empty where
  within := by simp [budget, entries, Traversal.empty]
  once := List.nodup_nil
  below := fun _ member => Nat.le_trans (Nat.le_of_eq (mem_entries.mp member).2) positive
  shallow := fun _ member => Nat.le_of_eq (mem_entries.mp member).2

theorem skip (sparing : Sparing steps bound start count ((file, depth) :: queue) found) :
    Sparing steps bound start (count + 1) queue { found with rounds := found.rounds + 1 } where
  within := by
    have within := sparing.within
    rw [List.length_cons] at within
    dsimp only
    omega
  once := sparing.once
  below := fun entry member => sparing.below entry (List.mem_cons_of_mem _ member)
  shallow := fun entry member => sparing.shallow entry (List.mem_cons_of_mem _ member)

/-- The file that is expanded pays for what it puts into the queue. -/
theorem expand (sparing : Sparing steps bound start count ((file, depth) :: queue) found)
    (expandable : ¬ (bound ≤ depth ∨ file ∈ found.visited)) :
    Sparing steps bound start (count + 1)
      (queue ++ entries (fresh steps (found.visited ++ [file]) file) (depth + 1))
      (Reach.expand steps start found file) := by
  obtain ⟨near, unvisited⟩ := not_or.mp expandable
  have longer : (found.visited ++ [file]).length = found.visited.length + 1 :=
    List.length_append
  refine ⟨?within, ?once, ?below, ?shallow⟩
  case within =>
    have within := sparing.within
    have added := length_fresh_le steps (found.visited ++ [file]) file
    rw [List.length_cons] at within
    rw [Reach.expand, budget_append, List.length_append, entries, List.length_map]
    omega
  case once =>
    refine List.nodup_append.mpr ⟨sparing.once, List.nodup_singleton file, ?_⟩
    rintro other expanded _ now rfl
    exact unvisited (List.mem_singleton.mp now ▸ expanded)
  case below =>
    intro entry member
    rcases List.mem_append.mp member with waiting | new
    · exact sparing.below entry (List.mem_cons_of_mem _ waiting)
    · rw [(mem_entries.mp new).2]
      exact Nat.lt_of_not_le near
  case shallow =>
    intro entry member
    rw [Reach.expand, longer]
    rcases List.mem_append.mp member with waiting | new
    · have before := sparing.shallow entry (List.mem_cons_of_mem _ waiting)
      omega
    · have front := sparing.shallow (file, depth) List.mem_cons_self
      rw [(mem_entries.mp new).2]
      dsimp only at front
      omega

end Sparing

namespace Stage

variable {steps : Steps} {bound count : Nat} {start : List String}
  {queue : List (String × Nat)} {found : Traversal}

theorem rounds_eq (stage : Stage steps bound start count queue found) : found.rounds = count := by
  induction stage with
  | opening => rfl
  | skip _ _ ih => exact congrArg (· + 1) ih
  | expand _ _ ih => exact congrArg (· + 1) ih

theorem sparing (stage : Stage steps bound start count queue found) (positive : 1 ≤ bound) :
    Sparing steps bound start count queue found := by
  induction stage with
  | opening => exact .opening positive
  | skip _ _ ih => exact ih.skip
  | expand _ expandable ih => exact ih.expand expandable

/-- From every stage the walk goes on to the same end. -/
theorem explore_eq_walk (stage : Stage steps bound start count queue found) :
    explore steps bound start queue found = walk steps bound start := by
  induction stage with
  | opening => rfl
  | skip _ idle ih => rw [← ih, explore_skip idle]
  | expand _ expandable ih => rw [← ih, explore_expand expandable]

end Stage

section Walk

variable (steps : Steps) (bound : Nat) (start : List String)

/-- A walk ends, at the stage where nothing waits. -/
theorem stage_walk :
    Stage steps bound start (walk steps bound start).rounds [] (walk steps bound start) :=
  explore_keeps (fun queue found => Stage steps bound start found.rounds queue found)
    (fun _ _ _ _ idle stage => stage.skip idle)
    (fun _ _ _ _ below unvisited stage =>
      stage.expand (not_or.mpr ⟨Nat.not_le_of_lt below, unvisited⟩))
    .opening

/-- A watched walk that is let go on asks once in each round. A walk that is cancelled has
asked once in each round before, and once more for the entry that it leaves. -/
theorem course_exploreWatched (collaborators : Collaborators)
    (cancelled : Plan.Cancellation) (past : List Plan.Moment) (said : List Exchange)
    {count : Nat} {queue : List (String × Nat)} {found : Traversal}
    (stage : Stage steps bound start count queue found) :
    let course := (exploreWatched steps bound start queue found).course collaborators cancelled
      past said
    (course.outcome = .ok (.ok (walk steps bound start)) ∧
        count + course.moments.length = (walk steps bound start).rounds) ∨
      course.outcome = .ok (.error .cancelled) ∧ ∃ later entry waiting now,
        Stage steps bound start later (entry :: waiting) now ∧
          count + course.moments.length = later + 1 := by
  induction queue, found using explore.induct steps bound start generalizing count past with
  | case1 found =>
      have ended := stage.explore_eq_walk
      rw [explore] at ended
      rw [exploreWatched, Plan.course_done, ← ended]
      exact Or.inl ⟨rfl, stage.rounds_eq.symm⟩
  | case2 file depth queue found idle ih =>
      rw [exploreWatched, Plan.course_checkpoint]
      cases cancelled (past ++ [.asked]) with
      | true =>
          rw [if_pos rfl, Plan.course_done]
          exact Or.inr ⟨rfl, count, _, queue, found, stage, rfl⟩
      | false =>
          rw [if_neg Bool.false_ne_true, if_pos idle]
          have goesOn := ih (past ++ [.asked]) (stage.skip idle)
          simpa only [List.length_cons, Nat.add_assoc, Nat.add_comm 1] using goesOn
  | case3 file depth queue found expandable ih =>
      rw [exploreWatched, Plan.course_checkpoint]
      cases cancelled (past ++ [.asked]) with
      | true =>
          rw [if_pos rfl, Plan.course_done]
          exact Or.inr ⟨rfl, count, _, queue, found, stage, rfl⟩
      | false =>
          rw [if_neg Bool.false_ne_true, if_neg expandable]
          have goesOn := ih (past ++ [.asked]) (stage.expand expandable)
          simpa only [List.length_cons, Nat.add_assoc, Nat.add_comm 1] using goesOn

end Walk

/-- At each stage of a walk under a limit everything is within its bounds. -/
theorem Stage.bounds {limit count : Nat} {steps : Steps} {start : List String}
    {queue : List (String × Nat)} {now : Traversal}
    (stage : Stage steps (Resolver.ofLimit limit).depth start count queue now) :
    count + queue.length ≤ budget steps start now.visited ∧ now.visited.Nodup ∧
      ∀ entry ∈ queue, entry.2 ≤ (Resolver.ofLimit limit).depth ∧
        entry.2 ≤ 1 + now.visited.length ∧ (limit < Nat.pow 2 64 →
          entry.2 < (Resolver.ofLimit limit).depth → entry.2 + 1 < Nat.pow 2 64) := by
  have sparing := stage.sparing (Resolver.ofLimit limit).depth_pos
  refine ⟨sparing.within, sparing.once, fun entry member =>
    ⟨sparing.below entry member, sparing.shallow entry member, fun small near => ?_⟩⟩
  have fits : (Resolver.ofLimit limit).depth < Nat.pow 2 64 := max_lt small (by decide)
  exact Nat.lt_of_le_of_lt near fits

/-- A walk ends, and at each of its stages the rounds taken and the entries that wait are
within the budget of the files expanded so far, none of them expanded twice. No depth in
the queue exceeds the bound or the count of expanded files by more than 1, so that a depth
that is still to grow fits into 64 bits with the limit. However a walk is cancelled, it asks
once in each round of these stages. -/
theorem traverse_within_budget (limit : Nat) (graph : SymbolGraph) (start : List String) :
    let resolver := Resolver.ofLimit limit
    let found := resolver.traverse graph start
    (graph.isEmpty = false → Stage graph.steps resolver.depth start found.rounds [] found) ∧
    found.rounds ≤ budget graph.steps start found.visited ∧ found.visited.Nodup ∧
    (∀ count queue now, Stage graph.steps resolver.depth start count queue now →
      count + queue.length ≤ budget graph.steps start now.visited ∧ now.visited.Nodup ∧
      ∀ entry ∈ queue, entry.2 ≤ resolver.depth ∧ entry.2 ≤ 1 + now.visited.length ∧
        (limit < Nat.pow 2 64 → entry.2 < resolver.depth → entry.2 + 1 < Nat.pow 2 64)) ∧
    ∀ collaborators cancelled past said,
      let course := (resolver.traverseWatched graph start).course collaborators cancelled
        past said
      (course.outcome = .ok (.ok found) ∧ course.moments.length = found.rounds) ∨
        course.outcome = .ok (.error .cancelled) ∧ ∃ count entry queue now,
          Stage graph.steps resolver.depth start count (entry :: queue) now ∧
            course.moments.length = count + 1 := by
  intro resolver found
  cases bare : graph.isEmpty with
  | true =>
      have nothing : found = .empty := if_pos bare
      rw [nothing]
      refine ⟨nofun, Nat.zero_le _, List.nodup_nil, fun _ _ _ => Stage.bounds, ?_⟩
      intro collaborators cancelled past said
      rw [Resolver.traverseWatched, if_pos bare, Plan.course_done]
      exact Or.inl ⟨rfl, rfl⟩
  | false =>
      have walks : found = walk graph.steps resolver.depth start :=
        if_neg (Bool.eq_false_iff.mp bare)
      have ended := stage_walk graph.steps resolver.depth start
      obtain ⟨within, once, _⟩ := ended.bounds
      rw [walks]
      refine ⟨fun _ => ended, within, once, fun _ _ _ => Stage.bounds, ?_⟩
      intro collaborators cancelled past said
      have course := course_exploreWatched graph.steps resolver.depth start collaborators
        cancelled past said .opening
      rw [Resolver.traverseWatched, if_neg (Bool.eq_false_iff.mp bare)]
      simpa only [Nat.zero_add] using course

end TestImpact.Reach
