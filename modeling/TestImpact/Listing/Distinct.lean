/-!
# First occurrences

Reports name every file and every test once, at the place where it was first
met. `firstOccurrences` is that rule: membership is kept, repetitions go, and
a list without repetitions stays as it is. `collect` is the loop that follows
the rule one element at a time.
-/

namespace TestImpact.Listing

variable {α : Type} [DecidableEq α]

def firstOccurrences : List α → List α
  | [] => []
  | first :: rest => first :: (firstOccurrences rest).filter (· ≠ first)

@[simp] theorem mem_firstOccurrences (element : α) (list : List α) :
    element ∈ firstOccurrences list ↔ element ∈ list := by
  induction list with
  | nil => simp [firstOccurrences]
  | cons first rest ih =>
      by_cases same : element = first <;> simp [firstOccurrences, same, ih]

theorem nodup_firstOccurrences (list : List α) : (firstOccurrences list).Nodup := by
  induction list with
  | nil => exact List.nodup_nil
  | cons first rest ih =>
      refine List.nodup_cons.2 ⟨?_, ih.filter _⟩
      simp

theorem firstOccurrences_of_nodup {list : List α} (distinct : list.Nodup) :
    firstOccurrences list = list := by
  induction list with
  | nil => rfl
  | cons first rest ih =>
      obtain ⟨absent, distinctRest⟩ := List.nodup_cons.1 distinct
      rw [firstOccurrences, ih distinctRest, List.filter_eq_self.2]
      intro element member
      simpa using fun same : element = first => absent (same ▸ member)

theorem firstOccurrences_append (first second : List α) :
    firstOccurrences (first ++ second) =
      firstOccurrences first ++ (firstOccurrences second).filter (· ∉ first) := by
  induction first with
  | nil =>
      rw [List.nil_append, firstOccurrences, List.nil_append, List.filter_eq_self.2]
      simp
  | cons element rest ih =>
      rw [List.cons_append, firstOccurrences, ih, List.filter_append, List.filter_filter,
        firstOccurrences, List.cons_append]
      congr 2
      refine List.filter_congr fun other _ => ?_
      simp

/-- Repetitions may go from the second of two lists before they go from both. -/
theorem firstOccurrences_append_firstOccurrences (first second : List α) :
    firstOccurrences (first ++ firstOccurrences second) = firstOccurrences (first ++ second) := by
  rw [firstOccurrences_append, firstOccurrences_append,
    firstOccurrences_of_nodup (nodup_firstOccurrences second)]

theorem filter_firstOccurrences (keep : α → Bool) (list : List α) :
    (firstOccurrences list).filter keep = firstOccurrences (list.filter keep) := by
  induction list with
  | nil => rfl
  | cons first rest ih =>
      have swapped : ((firstOccurrences rest).filter (· ≠ first)).filter keep =
          (firstOccurrences (rest.filter keep)).filter (· ≠ first) := by
        rw [← ih, List.filter_filter, List.filter_filter]
        exact List.filter_congr fun other _ => Bool.and_comm _ _
      rw [firstOccurrences, List.filter_cons, List.filter_cons, swapped]
      split
      · rw [firstOccurrences]
      · rename_i dropped
        rw [List.filter_eq_self]
        intro other member
        have kept : keep other = true :=
          (List.mem_filter.mp ((mem_firstOccurrences other _).mp member)).2
        have differs : other ≠ first := fun same => dropped (same ▸ kept)
        simpa using differs

/-- An item that gives nothing may be left out. -/
theorem flatMap_filter_ne {give : α → List α} {item : α} (nothing : give item = [])
    (list : List α) : (list.filter (· ≠ item)).flatMap give = list.flatMap give := by
  induction list with
  | nil => rfl
  | cons first rest ih =>
      by_cases same : first = item
      · simpa [same, nothing] using ih
      · simpa [same] using ih

/-- What comes from an item that comes again is there already. -/
theorem firstOccurrences_flatMap (give : α → List α) (list : List α) :
    firstOccurrences ((firstOccurrences list).flatMap give) =
      firstOccurrences (list.flatMap give) := by
  induction list generalizing give with
  | nil => rfl
  | cons first rest ih =>
      let later (item : α) : List α := (give item).filter (· ∉ give first)
      have nothing : later first = [] := by simp [later]
      have agree : ((firstOccurrences (((firstOccurrences rest).filter (· ≠ first)).flatMap
          give)).filter (· ∉ give first)) =
            (firstOccurrences (rest.flatMap give)).filter (· ∉ give first) := by
        calc
          _ = firstOccurrences (((firstOccurrences rest).filter (· ≠ first)).flatMap later) := by
            rw [filter_firstOccurrences, List.filter_flatMap]
          _ = firstOccurrences ((firstOccurrences rest).flatMap later) := by
            rw [flatMap_filter_ne nothing]
          _ = firstOccurrences (rest.flatMap later) := ih later
          _ = _ := by rw [filter_firstOccurrences, List.filter_flatMap]
      rw [firstOccurrences, List.flatMap_cons, List.flatMap_cons, firstOccurrences_append,
        firstOccurrences_append, agree]

def collect (collected : List α) (element : α) : List α :=
  if element ∈ collected then collected else collected ++ [element]

theorem foldl_collect (collected list : List α) :
    list.foldl collect collected =
      collected ++ (firstOccurrences list).filter (· ∉ collected) := by
  induction list generalizing collected with
  | nil => simp [firstOccurrences]
  | cons first rest ih =>
      rw [List.foldl_cons, ih, firstOccurrences, List.filter_cons, List.filter_filter]
      by_cases known : first ∈ collected
      · have kept : ∀ other ∈ firstOccurrences rest,
            decide (other ∉ collected) =
              (decide (other ∉ collected) && decide (other ≠ first)) := by
          intro other _
          by_cases same : other = first
          · simp [same, known]
          · simp [same]
        simp only [collect, known, if_true, not_true_eq_false, decide_false,
          Bool.false_eq_true, if_false]
        rw [List.filter_congr kept]
      · have kept : ∀ other ∈ firstOccurrences rest,
            decide (other ∉ collected ++ [first]) =
              (decide (other ∉ collected) && decide (other ≠ first)) := by
          intro other _
          simp
        simp only [collect, known, if_false, not_false_eq_true, decide_true, if_true]
        rw [List.filter_congr kept, List.append_assoc, List.singleton_append]

theorem mem_foldl_collect {collected list : List α} {element : α} :
    element ∈ list.foldl collect collected ↔ element ∈ collected ∨ element ∈ list := by
  rw [foldl_collect, List.mem_append, List.mem_filter, mem_firstOccurrences, decide_eq_true_eq]
  by_cases known : element ∈ collected
  · simp [known]
  · simp [known]

/-- Collecting the elements of a list keeps their first occurrences. -/
theorem foldl_collect_nil (list : List α) : list.foldl collect [] = firstOccurrences list := by
  rw [foldl_collect, List.nil_append, List.filter_eq_self]
  simp

end TestImpact.Listing
