import TestImpact.Proofs.Reach.Exact
import TestImpact.Proofs.SymbolGraph.Growth

/-!
# Deeper walks

A walk with a greater bound begins as the one with the smaller bound. Both queues move
along together until the smaller bound bites; since depths ascend along the queue, the
smaller walk expands nothing from then on, and the greater walk only adds to what is there.
The nearest way to a file passes a file at every smaller distance, so no distance reaches
the number of files in the graph, and a bound beyond that number finds all there is.
-/

namespace TestImpact

open Reach (distance exists_predecessor distance_eq_zero_iff)

namespace SymbolGraph

variable {graph : SymbolGraph} {start : List String} {source target file : String}
  {length : Nat}

/-- References lead from files in the graph to files in the graph. -/
theorem FileStep.mem_files (step : graph.FileStep source target) :
    source ∈ graph.files ∧ target ∈ graph.files := by
  constructor
  · by_contra undeclared
    have leads := mem_filesReferencedBy.mpr step
    rw [filesReferencedBy_of_not_mem graph source undeclared] at leads
    exact List.not_mem_nil leads
  · obtain ⟨_, _, _, _, link, _, symbol, placed, declares⟩ := step
    exact SymbolGraph.mem_files.mpr ⟨link.target, symbol, placed, declares⟩

theorem files_ne_nil (stocked : graph.isEmpty = false) : graph.files ≠ [] := by
  have some : 0 < graph.vertices.size := by
    rw [isEmpty, decide_eq_false_iff_not] at stocked
    exact Nat.pos_of_ne_zero stocked
  obtain ⟨symbol, placed⟩ := Option.isSome_iff_exists.mp (isSome_symbolAt? some)
  exact List.ne_nil_of_mem (mem_files.mpr ⟨0, symbol, placed, rfl⟩)

/-- There is a file of the graph at every distance up to that of a file of the graph. -/
theorem exists_mem_files_distance (member : file ∈ graph.files)
    (reached : distance graph.FileStep start file = length) {nearer : Nat}
    (within : nearer ≤ length) :
    ∃ via ∈ graph.files, distance graph.FileStep start via = nearer := by
  induction length generalizing file with
  | zero =>
      obtain rfl := Nat.le_zero.mp within
      exact ⟨file, member, reached⟩
  | succ length ih =>
      rcases Nat.lt_or_eq_of_le within with short | rfl
      · obtain ⟨via, step, before⟩ := exists_predecessor reached
        exact ih step.mem_files.1 before (Nat.le_of_lt_succ short)
      · exact ⟨file, member, reached⟩

theorem distance_lt_length_files (member : file ∈ graph.files)
    (reached : distance graph.FileStep start file = length) :
    length < graph.files.length := by
  have met : Finset.range (length + 1) ⊆
      graph.files.toFinset.image fun via => (distance graph.FileStep start via).toNat := by
    intro nearer within
    obtain ⟨via, stored, there⟩ := exists_mem_files_distance member reached
      (Nat.le_of_lt_succ (Finset.mem_range.mp within))
    exact Finset.mem_image.mpr ⟨via, List.mem_toFinset.mpr stored, congrArg ENat.toNat there⟩
  calc length + 1 = (Finset.range (length + 1)).card := (Finset.card_range _).symm
    _ ≤ (graph.files.toFinset.image _).card := Finset.card_le_card met
    _ ≤ graph.files.toFinset.card := Finset.card_image_le
    _ ≤ graph.files.length := List.toFinset_card_le _

/-- A file at any distance leaves room below a bound beyond the number of files. -/
theorem distance_add_two_le (stocked : graph.isEmpty = false)
    (reached : distance graph.FileStep start file = length) {bound : Nat}
    (beyond : graph.files.length + 1 ≤ bound) : length + 2 ≤ bound := by
  cases length with
  | zero =>
      have some := List.length_pos_of_ne_nil (files_ne_nil stocked)
      omega
  | succ length =>
      obtain ⟨via, step, _⟩ := exists_predecessor reached
      have below := distance_lt_length_files step.mem_files.2 reached
      omega

end SymbolGraph

namespace Reach

section Explore

variable {steps : Steps} {bound further : Nat} {start : List String}
  {queue : List (String × Nat)} {found : Traversal}

/-- A walk only adds to what it has expanded. -/
theorem visited_explore_grows :
    found.visited <+: (explore steps bound start queue found).visited :=
  explore_keeps (fun _ later => found.visited <+: later.visited)
    (fun _ _ _ _ _ added => added)
    (fun _ _ _ _ _ _ added => added.trans (List.prefix_append _ _))
    (List.prefix_refl found.visited)

/-- A queue at the bound and beyond is worked off without expanding anything. -/
theorem visited_explore_of_far (far : ∀ entry ∈ queue, bound ≤ entry.2) :
    (explore steps bound start queue found).visited = found.visited := by
  induction queue generalizing found with
  | nil => rw [explore]
  | cons entry queue ih =>
      obtain ⟨first, later⟩ := List.forall_mem_cons.mp far
      rw [explore_skip (Or.inl first), ih later]

/-- With a greater bound a walk goes on as with the smaller one, and perhaps further. Depths
ascend along the queue, so nothing waits below the bound behind the first file beyond it. -/
theorem visited_explore_mono (deepens : bound ≤ further) (level : queue.Pairwise Level) :
    (explore steps bound start queue found).visited <+:
      (explore steps further start queue found).visited := by
  induction queue, found using explore.induct steps bound start with
  | case1 found =>
      rw [explore, explore]
  | case2 file depth queue found idle ih =>
      obtain ⟨front, levelBehind⟩ := List.pairwise_cons.mp level
      rcases idle with far | done
      · have beyond : ∀ entry ∈ (file, depth) :: queue, bound ≤ entry.2 :=
          List.forall_mem_cons.mpr
            ⟨far, fun entry waiting => Nat.le_trans far (front entry waiting).1⟩
        rw [visited_explore_of_far beyond]
        exact visited_explore_grows
      · rw [explore_skip (Or.inr done), explore_skip (Or.inr done)]
        exact ih levelBehind
  | case3 file depth queue found expandable ih =>
      have expandableToo : ¬ (further ≤ depth ∨ file ∈ found.visited) :=
        mt (Or.imp_left (Nat.le_trans deepens)) expandable
      rw [explore_expand expandable, explore_expand expandableToo]
      exact ih (pairwise_level_expand level _)

theorem visited_walk_mono (deepens : bound ≤ further) :
    (walk steps bound start).visited <+: (walk steps further start).visited :=
  visited_explore_mono deepens (pairwise_level_entries start 1)

theorem discovered_walk_mono (deepens : bound ≤ further) :
    (walk steps bound start).discovered <+: (walk steps further start).discovered := by
  rw [discovered_walk, discovered_walk]
  exact met_mono (visited_walk_mono deepens)

end Explore

/-- Beyond the number of files, no bound makes a difference. -/
theorem visited_walk_eq {graph : SymbolGraph} (stocked : graph.isEmpty = false)
    (start : List String) {bound further : Nat} (beyond : graph.files.length + 1 ≤ bound)
    (deepens : bound ≤ further) :
    (walk graph.steps bound start).visited = (walk graph.steps further start).visited := by
  have short := exact_walk graph bound start
  have long := exact_walk graph further start
  refine (visited_walk_mono deepens).eq_of_length_le ?_
  refine (long.nodup_visited.subperm fun file expanded => ?_).length_le
  have room := (long.mem_visited file).mp expanded
  obtain ⟨length, reached, _⟩ := exists_eq_of_distance_le (le_trans le_self_add room)
  rw [short.mem_visited, reached]
  exact_mod_cast SymbolGraph.distance_add_two_le stocked reached beyond

/-- What a walk expands and reports under a bound is where a walk under a greater bound
begins. Under a bound beyond the number of files in the graph it is all of it. -/
theorem traverseWhile_deepens (graph : SymbolGraph) (start : List String) {limit further : Nat}
    (deepens : limit ≤ further) :
    ∃ found more,
      (Resolver.ofLimit limit).traverseWhile graph start false = .ok found ∧
      (Resolver.ofLimit further).traverseWhile graph start false = .ok more ∧
      found.visited <+: more.visited ∧ found.discovered <+: more.discovered ∧
      (graph.files.length + 1 ≤ limit →
        found.visited = more.visited ∧ found.discovered = more.discovered) := by
  have bounds : (Resolver.ofLimit limit).depth ≤ (Resolver.ofLimit further).depth :=
    max_le_max_right 1 deepens
  cases bare : graph.isEmpty with
  | true =>
      refine ⟨.empty, .empty, ?_, ?_, List.prefix_refl _, List.prefix_refl _, fun _ => ⟨rfl, rfl⟩⟩
      all_goals
        rw [Resolver.traverseWhile, Resolver.traverse, if_pos bare]
        rfl
  | false =>
      have walks (resolver : Resolver) : resolver.traverseWhile graph start false =
          .ok (walk graph.steps resolver.depth start) := by
        rw [Resolver.traverseWhile, Resolver.traverse, bare]
        rfl
      refine ⟨_, _, walks _, walks _, visited_walk_mono bounds, discovered_walk_mono bounds,
        fun beyond => ?_⟩
      have same := visited_walk_eq bare start (le_trans beyond (le_max_left limit 1)) bounds
      refine ⟨same, ?_⟩
      rw [discovered_walk, discovered_walk]
      exact congrArg (met graph.steps start) same

/-- Two files that reference each other, and a bound that the files do not reach. -/
theorem traverseWhile_deepens_cycle :
    let graph := SymbolGraph.ofSnapshot
      ⟨[⟨"a", "", .function, "a.go", 1⟩, ⟨"b", "", .function, "b.go", 1⟩],
       [⟨"a", "b", .calls⟩, ⟨"b", "a", .calls⟩]⟩
    3 ≤ 9 ∧ graph.files.length + 1 ≤ 3 ∧
      ∃ found more,
        (Resolver.ofLimit 3).traverseWhile graph ["b.go"] false = .ok found ∧
        (Resolver.ofLimit 9).traverseWhile graph ["b.go"] false = .ok more ∧
        found.visited = more.visited ∧ found.discovered = more.discovered := by
  intro graph
  have beyond : graph.files.length + 1 ≤ 3 := by decide
  obtain ⟨found, more, short, long, _, _, same⟩ :=
    traverseWhile_deepens graph ["b.go"] (by decide : 3 ≤ 9)
  exact ⟨by decide, beyond, found, more, short, long, same beyond⟩

end Reach

end TestImpact
