/-!
# Ascending names

Sets of names are reported in ascending order, each name once. `ascending`
brings any list into that form; it has the same members, and its result is
strictly ascending.
-/

namespace TestImpact.Listing

def insertAscending (name : String) : List String → List String
  | [] => [name]
  | first :: rest =>
      if name < first then name :: first :: rest
      else if first < name then first :: insertAscending name rest
      else first :: rest

def ascending (names : List String) : List String :=
  names.foldr insertAscending []

theorem eq_of_not_lt {first second : String} (notBelow : ¬ first < second)
    (notAbove : ¬ second < first) : first = second :=
  String.le_antisymm (String.not_lt.1 notAbove) (String.not_lt.1 notBelow)

@[simp] theorem mem_insertAscending (element name : String) (names : List String) :
    element ∈ insertAscending name names ↔ element = name ∨ element ∈ names := by
  induction names with
  | nil => simp [insertAscending]
  | cons first rest ih =>
      unfold insertAscending
      split
      · simp
      · split
        · simp only [List.mem_cons, ih]
          exact or_left_comm
        · rename_i notBelow notAbove
          simp [eq_of_not_lt notBelow notAbove]

theorem pairwise_insertAscending (name : String) {names : List String}
    (sorted : names.Pairwise (· < ·)) : (insertAscending name names).Pairwise (· < ·) := by
  induction names with
  | nil => simp [insertAscending]
  | cons first rest ih =>
      obtain ⟨below, sortedRest⟩ := List.pairwise_cons.1 sorted
      unfold insertAscending
      split
      · rename_i before
        refine List.pairwise_cons.2 ⟨?_, sorted⟩
        intro element member
        rcases List.mem_cons.1 member with same | later
        · exact same ▸ before
        · exact String.lt_trans before (below element later)
      · split
        · rename_i after
          refine List.pairwise_cons.2 ⟨?_, ih sortedRest⟩
          intro element member
          rcases (mem_insertAscending element name rest).1 member with same | later
          · exact same ▸ after
          · exact below element later
        · exact sorted

@[simp] theorem mem_ascending (element : String) (names : List String) :
    element ∈ ascending names ↔ element ∈ names := by
  induction names with
  | nil => simp [ascending]
  | cons first rest ih =>
      rw [ascending, List.foldr_cons, mem_insertAscending]
      rw [ascending] at ih
      simp [ih]

theorem pairwise_ascending (names : List String) : (ascending names).Pairwise (· < ·) := by
  induction names with
  | nil => exact List.Pairwise.nil
  | cons first rest ih => exact pairwise_insertAscending first ih

end TestImpact.Listing
