import TestImpact.Proofs.Reach.Discovery
import TestImpact.Reach.Resolver

/-!
# The bounded walk through a symbol graph

Distances are counted in references from file to file, starting from the files at
depth 1. A walk through a graph expands and reports exactly what its bound leaves
room for, in the order of the distances. With the direct references of a file in
front it reaches whatever a way of bounded length leads to.
-/

namespace TestImpact.Reach

open Listing (firstOccurrences filter_firstOccurrences)

theorem hop_steps (graph : SymbolGraph) : graph.steps.Hop = graph.FileStep := by
  funext source target
  exact propext SymbolGraph.mem_filesReferencedBy

/-- What a bounded walk through a graph ought to find, and in which order. -/
structure Traversal.Exact (graph : SymbolGraph) (bound : Nat) (start : List String)
    (found : Traversal) : Prop where
  nodup_visited : found.visited.Nodup
  mem_visited : ∀ file, file ∈ found.visited ↔ distance graph.FileStep start file + 2 ≤ bound
  ascending_visited : found.visited.Pairwise fun first second =>
    distance graph.FileStep start first ≤ distance graph.FileStep start second
  nodup_discovered : found.discovered.Nodup
  disjoint_start : ∀ file ∈ found.discovered, file ∉ start
  mem_discovered : ∀ file, file ∈ found.discovered ↔
    1 ≤ distance graph.FileStep start file ∧ distance graph.FileStep start file + 1 ≤ bound
  ascending_discovered : found.discovered.Pairwise fun first second =>
    distance graph.FileStep start first ≤ distance graph.FileStep start second
  /-- The report is told by the files expanded. -/
  discovered_eq : found.discovered =
    (firstOccurrences (found.visited.flatMap graph.filesReferencedBy)).filter (· ∉ start)

theorem exact_walk (graph : SymbolGraph) (bound : Nat) (start : List String) :
    (walk graph.steps bound start).Exact graph bound start where
  nodup_visited := nodup_visited_walk graph.steps bound start
  mem_visited := fun _ => hop_steps graph ▸ mem_visited_walk graph.steps bound start
  ascending_visited := hop_steps graph ▸ ascending_visited_walk graph.steps bound start
  nodup_discovered := nodup_discovered_walk graph.steps bound start
  disjoint_start := by
    intro file member
    rw [discovered_walk] at member
    exact (mem_met.mp member).1
  mem_discovered := fun _ => hop_steps graph ▸ mem_discovered_walk graph.steps bound start
  ascending_discovered := hop_steps graph ▸ ascending_discovered_walk graph.steps bound start
  discovered_eq := by
    rw [filter_firstOccurrences]
    exact discovered_walk graph.steps bound start

theorem not_fileStep_of_isEmpty {graph : SymbolGraph} (bare : graph.isEmpty = true)
    (source target : String) : ¬ graph.FileStep source target := by
  rintro ⟨_, vertex, stored, _⟩
  have none : graph.vertices.size = 0 := by
    simpa [SymbolGraph.isEmpty, SymbolGraph.symbolCount] using bare
  rw [Array.eq_empty_of_size_eq_zero none] at stored
  exact Array.not_mem_empty vertex stored

/-- Behind the direct references of a file the walk is never left out. -/
theorem traverse_direct (resolver : Resolver) (graph : SymbolGraph) (file : String) :
    resolver.traverse graph (Resolver.direct graph file) =
      walk graph.steps resolver.depth (Resolver.direct graph file) := by
  rw [Resolver.traverse]
  cases bare : graph.isEmpty with
  | false => rfl
  | true =>
      have none : Resolver.direct graph file = [] :=
        List.eq_nil_iff_forall_not_mem.mpr fun target member =>
          not_fileStep_of_isEmpty bare file target (SymbolGraph.mem_filesReferencedBy.mp member)
      rw [if_pos rfl, none, walk, entries, List.map_nil, explore]

/-- Whether a file can be reached from one of some files in so many references. -/
def Reachable (graph : SymbolGraph) (depth : Nat) (origins : List String)
    (file : String) : Prop :=
  ∃ origin ∈ origins, ∃ length ≤ depth, Hops graph.FileStep length origin file

/-- More references, more files to start from and a greater depth reach no fewer files. -/
theorem Reachable.mono {graph larger : SymbolGraph} {depth deeper : Nat}
    {origins others : List String} {file : String}
    (widens : ∀ source target, graph.FileStep source target → larger.FileStep source target)
    (deepens : depth ≤ deeper) (starts : origins ⊆ others)
    (reaches : Reachable graph depth origins file) : Reachable larger deeper others file := by
  obtain ⟨origin, member, length, short, way⟩ := reaches
  exact ⟨origin, starts member, length, Nat.le_trans short deepens, way.mono widens⟩

/-- From a file, its direct references and the walk behind them reach what ways of
bounded length lead to. -/
theorem reached_iff (resolver : Resolver) (graph : SymbolGraph) {origin file : String} :
    (file = origin ∨ file ∈ Resolver.direct graph origin ∨
        file ∈ (resolver.traverse graph (Resolver.direct graph origin)).discovered) ↔
      Reachable graph resolver.depth [origin] file := by
  have found := exact_walk graph resolver.depth (Resolver.direct graph origin)
  rw [traverse_direct, found.mem_discovered, Reachable]
  simp only [List.mem_singleton, exists_eq_left]
  constructor
  · rintro (rfl | direct | ⟨_, room⟩)
    · exact ⟨0, Nat.zero_le _, .here file⟩
    · exact ⟨1, resolver.depth_pos,
        .onward (.here origin) (SymbolGraph.mem_filesReferencedBy.mp direct)⟩
    · obtain ⟨length, equal, _⟩ := exists_eq_of_distance_le (le_trans le_self_add room)
      obtain ⟨shortest, short, via, direct, way⟩ := distance_le_iff.mp (le_of_eq equal)
      rw [equal] at room
      have below : length + 1 ≤ resolver.depth := by exact_mod_cast room
      exact ⟨shortest + 1, Nat.le_trans (Nat.succ_le_succ short) below,
        way.after (SymbolGraph.mem_filesReferencedBy.mp direct)⟩
  · rintro ⟨length, short, way⟩
    cases length with
    | zero => exact Or.inl (Hops.zero_iff.mp way).symm
    | succ length =>
        obtain ⟨via, first, rest⟩ := way.first_hop
        have near := distance_le_of_hops (SymbolGraph.mem_filesReferencedBy.mpr first) rest
        by_cases direct : file ∈ Resolver.direct graph origin
        · exact Or.inr (Or.inl direct)
        · refine Or.inr (Or.inr ⟨?_, ?_⟩)
          · rw [Order.one_le_iff_ne_zero]
            exact fun zero => direct (distance_eq_zero_iff.mp zero)
          · exact le_trans (add_le_add_left near 1) (by exact_mod_cast short)

/-- A walk that is not cancelled ends, and finds what it ought to. -/
theorem traverseWhile_exact (resolver : Resolver) (graph : SymbolGraph)
    (start : List String) (stocked : graph.isEmpty = false) :
    ∃ found, resolver.traverseWhile graph start false = .ok found ∧
      found.Exact graph resolver.depth start := by
  refine ⟨walk graph.steps resolver.depth start, ?_, exact_walk graph resolver.depth start⟩
  rw [Resolver.traverseWhile, Resolver.traverse, stocked]
  rfl

/-- Two files that reference each other: the walk comes back to the start once. -/
theorem traverseWhile_exact_cycle :
    let graph := SymbolGraph.ofSnapshot
      ⟨[⟨"a", "", .function, "a.go", 1⟩, ⟨"b", "", .function, "b.go", 1⟩],
       [⟨"a", "b", .calls⟩, ⟨"b", "a", .calls⟩]⟩
    graph.isEmpty = false ∧
      ∃ found, (Resolver.ofLimit 3).traverseWhile graph ["b.go", "b.go"] false = .ok found ∧
        found.Exact graph 3 ["b.go", "b.go"] :=
  ⟨by decide, traverseWhile_exact (Resolver.ofLimit 3) _ ["b.go", "b.go"] (by decide)⟩

end TestImpact.Reach
