import TestImpact.Proofs.Engine.Heeding
import TestImpact.Proofs.Reach.Frontier
import TestImpact.Reach.Watched

/-!
# Walks that are let go on, and walks that are not

A walk that is let go on finds what the plain walk finds, and says nothing to any
collaborator. One that is cancelled from the start is an error as soon as there is a
file in its queue.
-/

namespace TestImpact.Reach

section Explore

variable (steps : Steps) (bound : Nat) (start : List String) (queue : List (String × Nat))
  (found : Traversal)

theorem converse_exploreWatched (collaborators : Collaborators) (said : List Exchange) :
    (exploreWatched steps bound start queue found).converse collaborators said =
      (.ok (.ok (explore steps bound start queue found)), said) := by
  induction queue, found using explore.induct steps bound start with
  | case1 found => rw [exploreWatched, explore, Plan.converse_done]
  | case2 file depth queue found passed ih =>
      rw [exploreWatched, explore, Plan.converse_checkpoint, if_neg Bool.false_ne_true,
        if_pos passed, if_pos passed, ih]
  | case3 file depth queue found expandable ih =>
      rw [exploreWatched, explore, Plan.converse_checkpoint, if_neg Bool.false_ne_true,
        if_neg expandable, if_neg expandable, ih]

theorem rounds_explore_le : found.rounds ≤ (explore steps bound start queue found).rounds :=
  explore_keeps (fun _ later => found.rounds ≤ later.rounds)
    (fun _ _ _ _ _ fewer => Nat.le_succ_of_le fewer)
    (fun _ _ _ _ _ _ fewer => Nat.le_succ_of_le fewer) (Nat.le_refl found.rounds)

/-- A file in the queue takes a round. -/
theorem rounds_explore_cons_ne_zero (entry : String × Nat) :
    (explore steps bound start (entry :: queue) found).rounds ≠ 0 := by
  obtain ⟨file, depth⟩ := entry
  rw [explore]
  split
  · exact Nat.ne_zero_of_lt
      (rounds_explore_le steps bound start queue { found with rounds := found.rounds + 1 })
  · exact Nat.ne_zero_of_lt (rounds_explore_le steps bound start _ (expand steps start found file))

end Explore

namespace Resolver

variable (resolver : Resolver) (graph : SymbolGraph) (start : List String)
  (collaborators : Collaborators) (said : List Exchange)

@[simp] theorem converse_traverseWatched :
    (resolver.traverseWatched graph start).converse collaborators said =
      (.ok (.ok (resolver.traverse graph start)), said) := by
  rw [traverseWatched, traverse]
  cases graph.isEmpty with
  | true => exact Plan.converse_done collaborators said _
  | false => exact converse_exploreWatched _ _ _ _ _ collaborators said

/-- With a cancellation that holds from the start or never, a watched walk gives at its
end what is known of it beforehand. -/
theorem outcome_traverseWatched (cancelled : Bool) :
    ((resolver.traverseWatched graph start).course collaborators (fun _ => cancelled) []
      said).outcome = .ok (resolver.traverseWhile graph start cancelled) := by
  cases cancelled with
  | false =>
      have ended := converse_traverseWatched resolver graph start collaborators said
      exact congrArg Prod.fst ended
  | true =>
      rw [traverseWatched, traverseWhile, traverse]
      cases graph.isEmpty with
      | true => rfl
      | false =>
          rw [if_neg Bool.false_ne_true, if_neg Bool.false_ne_true, walk]
          cases start with
          | nil =>
              rw [entries, List.map_nil, exploreWatched, explore, Plan.course_done]
              rfl
          | cons file rest =>
              have taken := rounds_explore_cons_ne_zero graph.steps resolver.depth (file :: rest)
                (entries rest 1) .empty (file, 1)
              have queued : entries (file :: rest) 1 = (file, 1) :: entries rest 1 := rfl
              rw [queued, exploreWatched, Plan.course_checkpoint, if_pos rfl, Plan.course_done]
              dsimp only
              rw [Bool.true_and, if_pos (decide_eq_true taken)]

end Resolver

end TestImpact.Reach
