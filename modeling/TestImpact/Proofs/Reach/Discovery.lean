import TestImpact.Listing.Distinct
import TestImpact.Proofs.Reach.Frontier

/-!
# What a walk discovers

What a walk reports is told by what it expands: the files that the expanded ones
lead to, in the order of expansion, each once and without the start files. An
expanded file may be passed over unseen only because it has been reported before
or stands in the start. Since files are expanded in the order of their distances,
they are also reported in that order.
-/

namespace TestImpact.Reach

open Listing (firstOccurrences mem_firstOccurrences nodup_firstOccurrences
  firstOccurrences_append filter_firstOccurrences collect foldl_collect)

def met (steps : Steps) (start visited : List String) : List String :=
  firstOccurrences ((visited.flatMap steps.next).filter (· ∉ start))

theorem mem_met {steps : Steps} {start visited : List String} {file : String} :
    file ∈ met steps start visited ↔
      file ∉ start ∧ ∃ via ∈ visited, file ∈ steps.next via := by
  simp [met, and_comm]

theorem met_append (steps : Steps) (start visited : List String) (via : String) :
    met steps start (visited ++ [via]) =
      met steps start visited ++
        firstOccurrences ((steps.next via).filter fun file =>
          file ∉ start ∧ file ∉ met steps start visited) := by
  have members (file : String) :
      file ∈ (visited.flatMap steps.next).filter (· ∉ start) ↔
        file ∈ met steps start visited := (mem_firstOccurrences file _).symm
  rw [met, List.flatMap_append, List.flatMap_singleton, List.filter_append,
    firstOccurrences_append, filter_firstOccurrences, List.filter_filter]
  refine congrArg _ (congrArg firstOccurrences (List.filter_congr fun file _ => ?_))
  simp only [members, Bool.decide_and, Bool.and_comm]

/-- More expanded files lead to more files behind the others. -/
theorem met_mono {steps : Steps} {start visited more : List String}
    (adds : visited <+: more) : met steps start visited <+: met steps start more := by
  obtain ⟨rest, rfl⟩ := adds
  rw [met, met, List.flatMap_append, List.filter_append, firstOccurrences_append]
  exact List.prefix_append _ _

/-- Discovering files is collecting those beyond the start. -/
theorem discover_eq_foldl (start discovered files : List String) :
    discover start discovered files =
      (files.filter (· ∉ start)).foldl collect discovered := by
  induction files generalizing discovered with
  | nil => rfl
  | cons file rest ih =>
      by_cases origin : file ∈ start
      · rw [discover, if_pos (Or.inl origin), ih, List.filter_cons_of_neg (by simpa using origin)]
      · rw [List.filter_cons_of_pos (by simpa using origin), List.foldl_cons, collect, discover]
        by_cases known : file ∈ discovered
        · rw [if_pos (Or.inr known), if_pos known, ih]
        · rw [if_neg (not_or.mpr ⟨origin, known⟩), if_neg known, ih]

theorem discover_eq (start discovered files : List String) :
    discover start discovered files =
      discovered ++ firstOccurrences (files.filter fun file =>
        file ∉ start ∧ file ∉ discovered) := by
  rw [discover_eq_foldl, foldl_collect, filter_firstOccurrences, List.filter_filter]
  refine congrArg _ (congrArg firstOccurrences (List.filter_congr fun file _ => ?_))
  rw [Bool.decide_and, Bool.and_comm]

/-- What a walk keeps of its queue and of what it reports. -/
structure Recorded (steps : Steps) (start : List String) (queue : List (String × Nat))
    (found : Traversal) : Prop where
  waiting : ∀ entry ∈ queue, entry.1 ∈ start ∨ entry.1 ∈ found.discovered
  expanded : ∀ file ∈ found.visited, file ∈ start ∨ file ∈ found.discovered
  discovered_eq : found.discovered = met steps start found.visited

namespace Recorded

variable {steps : Steps} {start : List String} {found : Traversal}
  {queue : List (String × Nat)} {file : String} {depth : Nat}

theorem initial : Recorded steps start (entries start 1) .empty where
  waiting := fun _ member => Or.inl (mem_entries.mp member).1
  expanded := by simp [Traversal.empty]
  discovered_eq := rfl

theorem skip (recorded : Recorded steps start ((file, depth) :: queue) found) :
    Recorded steps start queue { found with rounds := found.rounds + 1 } where
  waiting := fun entry member => recorded.waiting entry (List.mem_cons_of_mem _ member)
  expanded := recorded.expanded
  discovered_eq := recorded.discovered_eq

theorem expand (recorded : Recorded steps start ((file, depth) :: queue) found) :
    Recorded steps start
      (queue ++ entries (fresh steps (found.visited ++ [file]) file) (depth + 1))
      (expand steps start found file) := by
  have expanded : ∀ other ∈ found.visited ++ [file],
      other ∈ start ∨ other ∈ found.discovered := by
    intro other member
    rcases List.mem_append.mp member with before | now
    · exact recorded.expanded other before
    · obtain rfl := List.mem_singleton.mp now
      exact recorded.waiting _ List.mem_cons_self
  have report : (Reach.expand steps start found file).discovered =
      met steps start (found.visited ++ [file]) := by
    rw [Reach.expand, met_append, ← recorded.discovered_eq]
    dsimp only
    rw [discover_eq, fresh, List.filter_filter]
    refine congrArg _ (congrArg firstOccurrences (List.filter_congr fun other _ => ?_))
    by_cases new : other ∉ start ∧ other ∉ found.discovered
    · have unexpanded : other ∉ found.visited ++ [file] := fun done =>
        (expanded other done).elim new.1 new.2
      simp [new, unexpanded]
    · simp [new]
  have kept : ∀ other, other ∈ start ∨ other ∈ found.discovered →
      other ∈ start ∨ other ∈ (Reach.expand steps start found file).discovered := by
    intro other
    rw [Reach.expand, discover_eq]
    exact Or.imp_right (List.mem_append_left _)
  refine ⟨?_, fun other member => kept other (expanded other member), report⟩
  intro entry member
  rcases List.mem_append.mp member with before | new
  · exact kept _ (recorded.waiting entry (List.mem_cons_of_mem _ before))
  · have led := (mem_fresh.mp (mem_entries.mp new).1).1
    by_cases origin : entry.1 ∈ start
    · exact Or.inl origin
    · rw [report]
      exact Or.inr (mem_met.mpr ⟨origin, file, by simp, led⟩)

end Recorded

theorem discovered_walk (steps : Steps) (bound : Nat) (start : List String) :
    (walk steps bound start).discovered = met steps start (walk steps bound start).visited := by
  have recorded : Recorded steps start [] (walk steps bound start) :=
    explore_keeps (Recorded steps start) (fun _ _ _ _ _ recorded => recorded.skip)
      (fun _ _ _ _ _ _ recorded => recorded.expand) Recorded.initial
  exact recorded.discovered_eq

/-- A list that holds, with every file, all files nearer than it, the nearer first. -/
structure Layered (steps : Steps) (start visited : List String) : Prop where
  ascending : visited.Pairwise fun first second =>
    distance steps.Hop start first ≤ distance steps.Hop start second
  nearer : ∀ via ∈ visited, ∀ file,
    distance steps.Hop start file < distance steps.Hop start via → file ∈ visited

section Layered

variable {steps : Steps} {start visited : List String} {last file : String} {length : Nat}

theorem Layered.of_append (layered : Layered steps start (visited ++ [last])) :
    Layered steps start visited := by
  obtain ⟨ascending, _, upTo⟩ := List.pairwise_append.mp layered.ascending
  refine ⟨ascending, fun via member other near => ?_⟩
  rcases List.mem_append.mp
    (layered.nearer via (List.mem_append_left _ member) other near) with before | now
  · exact before
  · exact absurd near (not_lt_of_ge (upTo via member other now))

/-- A file met for the first time stands one hop beyond the file that leads to it:
a nearer predecessor would have been expanded before, and would have led to it. -/
theorem Layered.distance_new (layered : Layered steps start (visited ++ [last]))
    (reached : distance steps.Hop start last = length) (hop : steps.Hop last file)
    (outside : file ∉ start) (unmet : file ∉ met steps start visited) :
    distance steps.Hop start file = (length + 1 : Nat) := by
  obtain ⟨further, equal, at_most⟩ :=
    exists_eq_of_distance_le (distance_hop_le hop (le_of_eq reached))
  rcases Nat.lt_or_eq_of_le at_most with nearer | same
  · exfalso
    cases further with
    | zero => exact outside (distance_eq_zero_iff.mp equal)
    | succ shorter =>
        obtain ⟨via, before, there⟩ := exists_predecessor equal
        have below : distance steps.Hop start via < distance steps.Hop start last := by
          rw [reached, there]
          exact Nat.cast_lt.mpr (Nat.lt_of_succ_lt_succ nearer)
        rcases List.mem_append.mp
          (layered.nearer last (List.mem_append_right _ List.mem_cons_self) via below)
          with member | now
        · exact unmet (mem_met.mpr ⟨outside, via, member, before⟩)
        · exact absurd below (List.mem_singleton.mp now ▸ lt_irrefl _)
  · rw [equal, same]

theorem mem_new {steps : Steps} {start known : List String} :
    file ∈ firstOccurrences ((steps.next last).filter fun file =>
        file ∉ start ∧ file ∉ known) ↔
      steps.Hop last file ∧ file ∉ start ∧ file ∉ known := by
  rw [mem_firstOccurrences, List.mem_filter, decide_eq_true_eq]
  rfl

/-- A file met from a layered list stands one hop beyond a file of the list. -/
theorem Layered.distance_met (layered : Layered steps start visited)
    (finite : ∀ via ∈ visited, ∃ length : Nat, distance steps.Hop start via = length)
    (member : file ∈ met steps start visited) :
    ∃ via ∈ visited, ∃ length : Nat, distance steps.Hop start via = length ∧
      distance steps.Hop start file = (length + 1 : Nat) := by
  induction visited using List.reverseRecOn with
  | nil => exact absurd member (by simp [mem_met])
  | append_singleton visited last ih =>
      rw [met_append] at member
      rcases List.mem_append.mp member with before | now
      · obtain ⟨via, expanded, there⟩ := ih layered.of_append
          (fun via expanded => finite via (List.mem_append_left _ expanded)) before
        exact ⟨via, List.mem_append_left _ expanded, there⟩
      · obtain ⟨hop, outside, unmet⟩ := mem_new.mp now
        have lastly : last ∈ visited ++ [last] := List.mem_append_right _ List.mem_cons_self
        obtain ⟨length, reached⟩ := finite last lastly
        exact ⟨last, lastly, length, reached,
          layered.distance_new reached hop outside unmet⟩

/-- Files are met from a layered list in the order of their distances. -/
theorem Layered.ascending_met (layered : Layered steps start visited)
    (finite : ∀ via ∈ visited, ∃ length : Nat, distance steps.Hop start via = length) :
    (met steps start visited).Pairwise fun first second =>
      distance steps.Hop start first ≤ distance steps.Hop start second := by
  induction visited using List.reverseRecOn with
  | nil => exact List.Pairwise.nil
  | append_singleton visited last ih =>
      obtain ⟨length, reached⟩ := finite last (List.mem_append_right _ List.mem_cons_self)
      have earlier : ∀ via ∈ visited, ∃ shorter : Nat,
          distance steps.Hop start via = shorter := fun via expanded =>
        finite via (List.mem_append_left _ expanded)
      have new : ∀ file ∈ firstOccurrences ((steps.next last).filter fun file =>
          file ∉ start ∧ file ∉ met steps start visited),
          distance steps.Hop start file = (length + 1 : Nat) := by
        intro file member
        obtain ⟨hop, outside, unmet⟩ := mem_new.mp member
        exact layered.distance_new reached hop outside unmet
      rw [met_append]
      refine List.pairwise_append.mpr ⟨ih layered.of_append earlier, ?_, ?_⟩
      · refine List.pairwise_of_forall_mem_list fun first one second other => ?_
        rw [new first one, new second other]
      · intro file before other now
        obtain ⟨via, expanded, shorter, there, beyond⟩ :=
          layered.of_append.distance_met earlier before
        have upTo := (List.pairwise_append.mp layered.ascending).2.2 via expanded last
          List.mem_cons_self
        rw [there, reached] at upTo
        rw [beyond, new other now]
        exact Nat.cast_le.mpr (Nat.succ_le_succ (Nat.cast_le.mp upTo))

end Layered

section Walk

variable (steps : Steps) (bound : Nat) (start : List String)

theorem layered_visited_walk : Layered steps start (walk steps bound start).visited where
  ascending := ascending_visited_walk steps bound start
  nearer := by
    intro via expanded file near
    rw [mem_visited_walk] at expanded ⊢
    exact le_trans (add_le_add_left (le_of_lt near) 2) expanded

theorem finite_visited_walk : ∀ via ∈ (walk steps bound start).visited,
    ∃ length : Nat, distance steps.Hop start via = length := by
  intro via expanded
  obtain ⟨length, reached, _⟩ := (frontier_walk steps bound start).settled via expanded
  exact ⟨length, reached⟩

/-- A walk reports the files beyond the start and below its bound, and no others. -/
theorem mem_discovered_walk {file : String} :
    file ∈ (walk steps bound start).discovered ↔
      1 ≤ distance steps.Hop start file ∧ distance steps.Hop start file + 1 ≤ bound := by
  rw [discovered_walk]
  constructor
  · intro member
    obtain ⟨via, expanded, length, reached, beyond⟩ :=
      (layered_visited_walk steps bound start).distance_met
        (finite_visited_walk steps bound start) member
    have room := (mem_visited_walk steps bound start).mp expanded
    rw [reached] at room
    rw [beyond]
    exact ⟨Nat.one_le_cast.mpr (Nat.succ_le_succ (Nat.zero_le length)),
      by exact_mod_cast room⟩
  · rintro ⟨outside, room⟩
    obtain ⟨length, equal, _⟩ := exists_eq_of_distance_le (le_trans le_self_add room)
    rw [equal] at outside room
    cases length with
    | zero => exact absurd outside (by simp)
    | succ length =>
        obtain ⟨via, hop, there⟩ := exists_predecessor equal
        have expanded : via ∈ (walk steps bound start).visited := by
          rw [mem_visited_walk, there]
          exact_mod_cast room
        refine mem_met.mpr ⟨fun origin => ?_, via, expanded, hop⟩
        rw [distance_eq_zero_iff.mpr origin] at equal
        exact absurd equal.symm (Nat.cast_ne_zero.mpr (Nat.succ_ne_zero length))

theorem nodup_discovered_walk : (walk steps bound start).discovered.Nodup := by
  rw [discovered_walk]
  exact nodup_firstOccurrences _

theorem ascending_discovered_walk :
    (walk steps bound start).discovered.Pairwise fun first second =>
      distance steps.Hop start first ≤ distance steps.Hop start second := by
  rw [discovered_walk]
  exact (layered_visited_walk steps bound start).ascending_met
    (finite_visited_walk steps bound start)

end Walk

end TestImpact.Reach
