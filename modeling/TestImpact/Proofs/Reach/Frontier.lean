import TestImpact.Proofs.Reach.Distance
import TestImpact.Reach.Walk

/-!
# The frontier of a walk

The queue of a walk holds files at two neighbouring depths at most, the nearer
ones in front. So a file is expanded in its turn: when it comes to the front for
the first time, everything nearer has been expanded, and its depth is its
distance plus 1. `Frontier` is that invariant. At the end of a walk the files
expanded are exactly those whose distance leaves room for a hop below the bound.
-/

namespace TestImpact.Reach

def Steps.Hop (steps : Steps) (source target : String) : Prop := target ∈ steps.next source

theorem mem_fresh {steps : Steps} {visited : List String} {via file : String} :
    file ∈ fresh steps visited via ↔ file ∈ steps.next via ∧ file ∉ visited := by
  simp [fresh]

theorem mem_entries {files : List String} {depth : Nat} {entry : String × Nat} :
    entry ∈ entries files depth ↔ entry.1 ∈ files ∧ entry.2 = depth := by
  rw [entries, List.mem_map]
  constructor
  · rintro ⟨file, member, rfl⟩
    exact ⟨member, rfl⟩
  · rintro ⟨member, same⟩
    exact ⟨entry.1, member, same ▸ rfl⟩

theorem explore_skip {steps : Steps} {bound : Nat} {start : List String} {file : String}
    {depth : Nat} {found : Traversal} (idle : bound ≤ depth ∨ file ∈ found.visited)
    (queue : List (String × Nat)) :
    explore steps bound start ((file, depth) :: queue) found =
      explore steps bound start queue { found with rounds := found.rounds + 1 } := by
  rw [explore, if_pos idle]

theorem explore_expand {steps : Steps} {bound : Nat} {start : List String} {file : String}
    {depth : Nat} {found : Traversal} (expandable : ¬ (bound ≤ depth ∨ file ∈ found.visited))
    (queue : List (String × Nat)) :
    explore steps bound start ((file, depth) :: queue) found =
      explore steps bound start
        (queue ++ entries (fresh steps (found.visited ++ [file]) file) (depth + 1))
        (expand steps start found file) := by
  rw [explore, if_neg expandable]

/-- What every round of a walk keeps holds at its end, where nothing waits. -/
theorem explore_keeps {steps : Steps} {bound : Nat} {start : List String}
    (Kept : List (String × Nat) → Traversal → Prop)
    (skip : ∀ file depth queue found, bound ≤ depth ∨ file ∈ found.visited →
      Kept ((file, depth) :: queue) found → Kept queue { found with rounds := found.rounds + 1 })
    (expanded : ∀ file depth queue found, depth < bound → file ∉ found.visited →
      Kept ((file, depth) :: queue) found →
      Kept (queue ++ entries (fresh steps (found.visited ++ [file]) file) (depth + 1))
        (expand steps start found file))
    {queue : List (String × Nat)} {found : Traversal} (kept : Kept queue found) :
    Kept [] (explore steps bound start queue found) := by
  induction queue, found using explore.induct steps bound start with
  | case1 found =>
      rw [explore]
      exact kept
  | case2 file depth queue found idle ih =>
      rw [explore_skip idle]
      exact ih (skip file depth queue found idle kept)
  | case3 file depth queue found expandable ih =>
      rw [explore_expand expandable]
      obtain ⟨below, unvisited⟩ := not_or.mp expandable
      exact ih (expanded file depth queue found (Nat.lt_of_not_le below) unvisited kept)

def Level (first second : String × Nat) : Prop :=
  first.2 ≤ second.2 ∧ second.2 ≤ first.2 + 1

theorem pairwise_level_entries (files : List String) (depth : Nat) :
    (entries files depth).Pairwise Level :=
  List.pairwise_map.mpr
    (List.pairwise_of_forall fun _ _ => ⟨Nat.le_refl depth, Nat.le_succ depth⟩)

/-- Files that wait one deeper than the front keep the order. -/
theorem pairwise_level_expand {front : String × Nat} {queue : List (String × Nat)}
    (level : (front :: queue).Pairwise Level) (files : List String) :
    (queue ++ entries files (front.2 + 1)).Pairwise Level := by
  obtain ⟨ahead, behind⟩ := List.pairwise_cons.mp level
  refine List.pairwise_append.mpr ⟨behind, pairwise_level_entries _ _, ?_⟩
  intro entry waiting other new
  rw [Level, (mem_entries.mp new).2]
  exact ⟨(ahead entry waiting).2, Nat.succ_le_succ (ahead entry waiting).1⟩

/-- A file that is met at a depth has been expanded, or lies too far, or waits. -/
def Handled (bound : Nat) (queue : List (String × Nat)) (visited : List String)
    (file : String) (depth : Nat) : Prop :=
  file ∈ visited ∨ bound ≤ depth ∨ (file, depth) ∈ queue

namespace Handled

variable {bound depth other : Nat} {queue : List (String × Nat)} {visited : List String}
  {file front : String}

/-- Taking an entry off the queue that need not be expanded. -/
theorem skip (handled : Handled bound ((front, depth) :: queue) visited file other)
    (idle : bound ≤ depth ∨ front ∈ visited) : Handled bound queue visited file other := by
  rcases handled with done | far | waiting
  · exact Or.inl done
  · exact Or.inr (Or.inl far)
  · rcases List.mem_cons.mp waiting with same | rest
    · obtain ⟨rfl, rfl⟩ := Prod.mk.inj same
      exact idle.elim (fun far => Or.inr (Or.inl far)) Or.inl
    · exact Or.inr (Or.inr rest)

/-- Expanding the file in front, with more files to wait behind the others. -/
theorem expand (handled : Handled bound ((front, depth) :: queue) visited file other)
    (more : List (String × Nat)) :
    Handled bound (queue ++ more) (visited ++ [front]) file other := by
  rcases handled with done | far | waiting
  · exact Or.inl (List.mem_append_left _ done)
  · exact Or.inr (Or.inl far)
  · rcases List.mem_cons.mp waiting with same | rest
    · obtain ⟨rfl, rfl⟩ := Prod.mk.inj same
      exact Or.inl (List.mem_append_right _ List.mem_cons_self)
    · exact Or.inr (Or.inr (List.mem_append_left _ rest))

end Handled

/-- What a walk keeps of its queue and of the files that it has expanded. -/
structure Frontier (steps : Steps) (bound : Nat) (start : List String)
    (queue : List (String × Nat)) (visited : List String) : Prop where
  level : queue.Pairwise Level
  near : ∀ entry ∈ queue, ∃ length : Nat,
    distance steps.Hop start entry.1 = length ∧ length + 1 ≤ entry.2
  settled : ∀ file ∈ visited, ∃ length : Nat,
    distance steps.Hop start file = length ∧ length + 2 ≤ bound ∧
      ∀ entry ∈ queue, length + 1 ≤ entry.2
  origins : ∀ file ∈ start, Handled bound queue visited file 1
  closed : ∀ via ∈ visited, ∀ length : Nat, distance steps.Hop start via = length →
    ∀ file ∈ steps.next via, Handled bound queue visited file (length + 2)
  distinct : visited.Nodup
  ascending : visited.Pairwise fun first second =>
    distance steps.Hop start first ≤ distance steps.Hop start second

namespace Frontier

variable {steps : Steps} {bound : Nat} {start visited : List String}
  {queue : List (String × Nat)} {file : String} {depth : Nat}

theorem initial : Frontier steps bound start (entries start 1) [] where
  level := pairwise_level_entries start 1
  near := by
    intro entry member
    obtain ⟨origin, depth⟩ := mem_entries.mp member
    exact ⟨0, distance_eq_zero_iff.mpr origin, Nat.le_of_eq depth.symm⟩
  settled := by simp
  origins := fun _ origin => Or.inr (Or.inr (mem_entries.mpr ⟨origin, rfl⟩))
  closed := by simp
  distinct := List.nodup_nil
  ascending := List.Pairwise.nil

/-- Everything nearer than the queue has been expanded. The induction goes along a
shortest way: the predecessor has been expanded, so it has not left the file in
the queue. -/
theorem mem_visited (frontier : Frontier steps bound start queue visited) {length : Nat}
    (reaches : distance steps.Hop start file = length) (room : length + 2 ≤ bound)
    (passed : ∀ entry ∈ queue, length + 1 < entry.2) : file ∈ visited := by
  induction length generalizing file with
  | zero =>
      have origin : file ∈ start := distance_eq_zero_iff.mp reaches
      rcases frontier.origins file origin with done | far | waiting
      · exact done
      · omega
      · exact absurd (passed _ waiting) (Nat.lt_irrefl 1)
  | succ length ih =>
      obtain ⟨via, hop, nearer⟩ := exists_predecessor reaches
      have expanded : via ∈ visited :=
        ih nearer (by omega) fun entry member => by
          have later := passed entry member
          omega
      rcases frontier.closed via expanded length nearer file hop with done | far | waiting
      · exact done
      · omega
      · exact absurd (passed _ waiting) (Nat.lt_irrefl (length + 2))

/-- A file that comes to the front and is still to be expanded stands at its depth. -/
theorem distance_head
    (frontier : Frontier steps bound start ((file, depth) :: queue) visited)
    (below : depth < bound) (unvisited : file ∉ visited) :
    ∃ length : Nat, distance steps.Hop start file = length ∧ depth = length + 1 := by
  obtain ⟨length, reached, at_most⟩ := frontier.near _ List.mem_cons_self
  refine ⟨length, reached, Nat.le_antisymm ?_ at_most⟩
  by_contra early
  refine unvisited (frontier.mem_visited reached ?_ ?_)
  · have earlier : length + 1 < depth := Nat.lt_of_not_le early
    omega
  · intro entry member
    have front : depth ≤ entry.2 := by
      rcases List.mem_cons.mp member with rfl | later
      · exact Nat.le_refl depth
      · exact ((List.pairwise_cons.mp frontier.level).1 entry later).1
    omega

/-- Taking an entry off the queue that need not be expanded. -/
theorem skip (frontier : Frontier steps bound start ((file, depth) :: queue) visited)
    (idle : bound ≤ depth ∨ file ∈ visited) :
    Frontier steps bound start queue visited where
  level := (List.pairwise_cons.mp frontier.level).2
  near := fun entry member => frontier.near entry (List.mem_cons_of_mem _ member)
  settled := by
    intro other member
    obtain ⟨length, reached, room, later⟩ := frontier.settled other member
    exact ⟨length, reached, room, fun entry rest => later entry (List.mem_cons_of_mem _ rest)⟩
  origins := fun origin member => (frontier.origins origin member).skip idle
  closed := fun via expanded length reached other hop =>
    (frontier.closed via expanded length reached other hop).skip idle
  distinct := frontier.distinct
  ascending := frontier.ascending

/-- Expanding the file in front. -/
theorem expand (frontier : Frontier steps bound start ((file, depth) :: queue) visited)
    (below : depth < bound) (unvisited : file ∉ visited) :
    Frontier steps bound start
      (queue ++ entries (fresh steps (visited ++ [file]) file) (depth + 1))
      (visited ++ [file]) := by
  obtain ⟨length, reached, rfl⟩ := frontier.distance_head below unvisited
  have front := (List.pairwise_cons.mp frontier.level).1
  have behind : ∀ entry ∈ queue ++
      entries (fresh steps (visited ++ [file]) file) (length + 1 + 1),
      length + 1 ≤ entry.2 := by
    intro entry member
    rcases List.mem_append.mp member with waiting | new
    · exact (front entry waiting).1
    · rw [(mem_entries.mp new).2]
      exact Nat.le_succ (length + 1)
  have before : ∀ other ∈ visited, ∃ shorter : Nat,
      distance steps.Hop start other = shorter ∧ shorter + 2 ≤ bound ∧ shorter ≤ length := by
    intro other expanded
    obtain ⟨shorter, reaches, room, later⟩ := frontier.settled other expanded
    exact ⟨shorter, reaches, room, Nat.le_of_succ_le_succ (later _ List.mem_cons_self)⟩
  refine ⟨?level, ?near, ?settled, ?origins, ?closed, ?distinct, ?ascending⟩
  case level => exact pairwise_level_expand frontier.level _
  case near =>
    intro entry member
    rcases List.mem_append.mp member with waiting | new
    · exact frontier.near entry (List.mem_cons_of_mem _ waiting)
    · obtain ⟨led, deeper⟩ := mem_entries.mp new
      obtain ⟨further, reaches, at_most⟩ := exists_eq_of_distance_le
        (distance_hop_le (mem_fresh.mp led).1 (le_of_eq reached))
      exact ⟨further, reaches, deeper ▸ Nat.succ_le_succ at_most⟩
  case settled =>
    intro other member
    rcases List.mem_append.mp member with expanded | now
    · obtain ⟨shorter, reaches, room, earlier⟩ := before other expanded
      exact ⟨shorter, reaches, room, fun entry later =>
        Nat.le_trans (Nat.succ_le_succ earlier) (behind entry later)⟩
    · obtain rfl := List.mem_singleton.mp now
      exact ⟨length, reached, below, behind⟩
  case origins =>
    exact fun origin member => (frontier.origins origin member).expand _
  case closed =>
    intro via member shorter reaches other hop
    rcases List.mem_append.mp member with expanded | now
    · exact (frontier.closed via expanded shorter reaches other hop).expand _
    · obtain rfl := List.mem_singleton.mp now
      obtain rfl : length = shorter := Nat.cast_injective (reached.symm.trans reaches)
      by_cases done : other ∈ visited ++ [via]
      · exact Or.inl done
      · refine Or.inr (Or.inr (List.mem_append_right _ ?_))
        exact mem_entries.mpr ⟨mem_fresh.mpr ⟨hop, done⟩, rfl⟩
  case distinct =>
    refine List.nodup_append.mpr ⟨frontier.distinct, List.nodup_singleton file, ?_⟩
    rintro other expanded _ now rfl
    exact unvisited (List.mem_singleton.mp now ▸ expanded)
  case ascending =>
    refine List.pairwise_append.mpr ⟨frontier.ascending, List.pairwise_singleton _ _, ?_⟩
    intro other expanded _ now
    obtain rfl := List.mem_singleton.mp now
    obtain ⟨shorter, reaches, _, earlier⟩ := before other expanded
    rw [reaches, reached]
    exact Nat.cast_le.mpr earlier

end Frontier

section Walk

variable (steps : Steps) (bound : Nat) (start : List String)

theorem frontier_walk : Frontier steps bound start [] (walk steps bound start).visited :=
  explore_keeps (fun queue found => Frontier steps bound start queue found.visited)
    (fun _ _ _ _ idle frontier => frontier.skip idle)
    (fun _ _ _ _ below unvisited frontier => frontier.expand below unvisited)
    Frontier.initial

/-- A walk expands the files with room for a hop below its bound, and no others. -/
theorem mem_visited_walk {file : String} :
    file ∈ (walk steps bound start).visited ↔ distance steps.Hop start file + 2 ≤ bound := by
  have frontier := frontier_walk steps bound start
  constructor
  · intro expanded
    obtain ⟨length, reaches, room, _⟩ := frontier.settled file expanded
    rw [reaches]
    exact_mod_cast room
  · intro room
    have within : distance steps.Hop start file ≤ bound := le_trans le_self_add room
    obtain ⟨length, reaches, _⟩ : ∃ length : Nat,
        distance steps.Hop start file = length ∧ length ≤ bound := exists_eq_of_distance_le within
    rw [reaches] at room
    exact frontier.mem_visited reaches (by exact_mod_cast room) (by simp)

theorem nodup_visited_walk : (walk steps bound start).visited.Nodup :=
  (frontier_walk steps bound start).distinct

theorem ascending_visited_walk :
    (walk steps bound start).visited.Pairwise fun first second =>
      distance steps.Hop start first ≤ distance steps.Hop start second :=
  (frontier_walk steps bound start).ascending

end Walk

end TestImpact.Reach
