import Mathlib.Data.List.TakeDrop
import Mathlib.Data.List.TakeWhile
import TestImpact.Text.Blank
import TestImpact.Text.Search
import TestImpact.Text.Word

/-!
# What a search finds

What a reader of a text takes off its front is told by an equation: the text is what was
taken, put in front of what is left. A search passes over a part of a text if nothing
that starts in the part is found, or nothing that would not be found behind it too.
-/

namespace TestImpact.Text

theorem dropPart?_eq_some_iff {part text rest : List Char} :
    dropPart? part text = some rest ↔ text = part ++ rest := by
  induction part generalizing text with
  | nil => rw [dropPart?, Option.some.injEq, List.nil_append]
  | cons first part ih =>
      cases text with
      | nil => simp [dropPart?]
      | cons c text =>
          rw [dropPart?, Option.ite_none_right_eq_some, ih, List.cons_append, List.cons.injEq]

/-- A part without a mark ends before the mark. -/
theorem append_cons_eq_append_iff {mark : Char} {text more front after : List Char}
    (unmarked : mark ∉ front) : text ++ mark :: more = front ++ after ↔
      ∃ rest, text = front ++ rest ∧ after = rest ++ mark :: more := by
  rw [List.append_eq_append_iff]
  constructor
  · rintro (⟨rest, rfl, split⟩ | found)
    · cases rest with
      | nil => exact ⟨[], by simp, split.symm⟩
      | cons c rest =>
          obtain ⟨rfl, _⟩ := List.cons.inj split
          exact absurd (List.mem_append_right text List.mem_cons_self) unmarked
    · exact found
  · exact .inr

def Stops (kind : Char → Bool) (text : List Char) : Prop := ∀ c ∈ text.head?, kind c = false

theorem stops_append_cons_iff {kind : Char → Bool} {c : Char} (other : kind c = false)
    (text more : List Char) : Stops kind (text ++ c :: more) ↔ Stops kind text := by
  cases text with
  | nil => simp [Stops, other]
  | cons d text => simp [Stops]

section Runs

variable {kind : Char → Bool} {text front rest : List Char}

theorem stops_dropWhile (kind : Char → Bool) (text : List Char) :
    Stops kind (text.dropWhile kind) := by
  induction text with
  | nil => simp [Stops]
  | cons c text ih =>
      rw [List.dropWhile_cons]
      split
      · exact ih
      · rename_i differs
        simpa [Stops] using differs

theorem takeWhile_append (run : ∀ c ∈ front, kind c = true) (stops : Stops kind rest) :
    (front ++ rest).takeWhile kind = front := by
  rw [List.takeWhile_append_of_pos run]
  cases rest with
  | nil => simp
  | cons c rest =>
      rw [List.takeWhile_cons_of_neg (by simp [stops c rfl]), List.append_nil]

theorem dropWhile_append (run : ∀ c ∈ front, kind c = true) (stops : Stops kind rest) :
    (front ++ rest).dropWhile kind = rest := by
  rw [List.dropWhile_append_of_pos run]
  cases rest with
  | nil => rfl
  | cons c rest => exact List.dropWhile_cons_of_neg (by simp [stops c rfl])

/-- A run is cut off where it stops. -/
theorem span_eq_iff : text.span kind = (front, rest) ↔
    text = front ++ rest ∧ (∀ c ∈ front, kind c = true) ∧ Stops kind rest := by
  rw [List.span_eq_takeWhile_dropWhile, Prod.mk.injEq]
  constructor
  · rintro ⟨rfl, rfl⟩
    exact ⟨List.takeWhile_append_dropWhile.symm, fun _ => List.mem_takeWhile_imp,
      stops_dropWhile kind text⟩
  · rintro ⟨rfl, run, stops⟩
    exact ⟨takeWhile_append run stops, dropWhile_append run stops⟩

/-- What stands in front of a mark is cut off at the first one. -/
theorem span_ne_eq_iff {mark c : Char} {after : List Char} :
    text.span (· ≠ mark) = (front, c :: after) ↔
      c = mark ∧ mark ∉ front ∧ text = front ++ mark :: after := by
  have unmarked : (∀ d ∈ front, decide (d ≠ mark) = true) ↔ mark ∉ front := by
    simp only [decide_eq_true_eq]
    exact ⟨fun differ member => differ mark member rfl, fun absent d member same =>
      absent (same ▸ member)⟩
  have stops : Stops (· ≠ mark) (c :: after) ↔ c = mark := by simp [Stops]
  rw [span_eq_iff, unmarked, stops]
  constructor
  · rintro ⟨rfl, absent, rfl⟩
    exact ⟨rfl, absent, rfl⟩
  · rintro ⟨rfl, absent, rfl⟩
    exact ⟨rfl, absent, rfl⟩

theorem dropWhile_eq_iff : text.dropWhile kind = rest ↔
    ∃ front, text = front ++ rest ∧ (∀ c ∈ front, kind c = true) ∧ Stops kind rest := by
  constructor
  · rintro rfl
    exact ⟨text.takeWhile kind, List.takeWhile_append_dropWhile.symm,
      fun _ => List.mem_takeWhile_imp, stops_dropWhile kind text⟩
  · rintro ⟨front, rfl, run, stops⟩
    exact dropWhile_append run stops

end Runs

section Kinds

def CodePoints.apart (first second : CodePoints) : Bool :=
  first.all fun one => second.all fun other => one.2 < other.1 || other.2 < one.1

theorem CodePoints.contains_eq_false {first second : CodePoints}
    (apart : first.apart second = true) {c : Char} (member : first.contains c = true) :
    second.contains c = false := by
  obtain ⟨one, listed, within⟩ := List.any_eq_true.mp member
  rw [Bool.and_eq_true, decide_eq_true_eq, decide_eq_true_eq] at within
  apply List.any_eq_false.mpr
  intro other among meets
  have beside := List.all_eq_true.mp (List.all_eq_true.mp apart one listed) other among
  rw [Bool.and_eq_true, decide_eq_true_eq, decide_eq_true_eq] at meets
  rw [Bool.or_eq_true, decide_eq_true_eq, decide_eq_true_eq] at beside
  omega

theorem isWordChar_eq_false_of_isBlank {c : Char} (blank : isBlank c = true) :
    isWordChar c = false := by
  have apart : blanks.apart wordCodePoints = true := by decide +kernel
  have ascii : ∀ code < 0x80, isBlank (Char.ofNat code) = true →
      ((Char.ofNat code).isAlphanum || decide (Char.ofNat code = '_')) = false := by decide
  rw [isWordChar]
  split
  · rename_i low
    have plain := ascii c.toNat low
    rw [Char.ofNat_toNat] at plain
    exact plain blank
  · exact CodePoints.contains_eq_false apart blank

end Kinds

section Searching

variable {α : Type} {form : List Char → Option (α × List Char)}

theorem findAll_of_none {c : Char} {rest : List Char} (nothing : form (c :: rest) = none) :
    findAll form 0 (c :: rest) = findAll form 0 rest := by
  rw [findAll, nothing]

theorem findAll_eq_drop (skipped : Nat) (text : List Char) :
    findAll form skipped text = findAll form 0 (text.drop skipped) := by
  induction text generalizing skipped with
  | nil => rw [List.drop_nil, findAll, findAll]
  | cons c rest ih =>
      cases skipped with
      | zero => rfl
      | succ skipped => rw [findAll, ih, List.drop_succ_cons]

/-- A search goes on behind what it found. -/
theorem findAll_of_some {consumed after : List Char} {found : α} (filled : consumed ≠ [])
    (stands : form (consumed ++ after) = some (found, after)) :
    findAll form 0 (consumed ++ after) = found :: findAll form 0 after := by
  obtain ⟨c, consumed, rfl⟩ := List.exists_cons_of_ne_nil filled
  rw [List.cons_append] at stands ⊢
  rw [findAll, stands]
  dsimp only
  rw [findAll_eq_drop, List.length_append, Nat.add_sub_cancel_right, List.drop_left]

/-- A search passes over a part of a text if it does so from each place in the part. -/
theorem findAll_append {chunk rest : List Char}
    (passes : ∀ c part, c :: part <:+ chunk → form (c :: (part ++ rest)) = none ∨
      findAll form 0 (c :: (part ++ rest)) = findAll form 0 rest) :
    findAll form 0 (chunk ++ rest) = findAll form 0 rest := by
  induction chunk with
  | nil => rfl
  | cons c chunk ih =>
      rcases passes c chunk List.suffix_rfl with nothing | same
      · rw [List.cons_append, findAll_of_none nothing]
        exact ih fun d part suffix => passes d part (suffix.trans (List.suffix_cons c chunk))
      · exact same

end Searching

end TestImpact.Text
