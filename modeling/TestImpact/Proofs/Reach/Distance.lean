import Mathlib.Data.ENat.Lattice

/-!
# Distances between files

A hop goes from a file to one that it references. `Hops` counts the hops of one
way, and the distance of a file is the length of a shortest way from the start
files, infinite without one. Three laws carry every later use: start files are
those at distance 0, a hop adds at most 1, and a file further away has a
predecessor that is nearer by 1.
-/

namespace TestImpact.Reach

/-- A way from one file to another, in so many hops. -/
inductive Hops (step : String → String → Prop) : Nat → String → String → Prop where
  | here (file : String) : Hops step 0 file file
  | onward {length : Nat} {origin via file : String}
      (way : Hops step length origin via) (last : step via file) :
      Hops step (length + 1) origin file

namespace Hops

variable {step : String → String → Prop} {length : Nat} {origin via file : String}

theorem after (first : step origin via) (way : Hops step length via file) :
    Hops step (length + 1) origin file := by
  induction way with
  | here via => exact .onward (.here origin) first
  | onward _ last ih => exact .onward (ih first) last

theorem first_hop (way : Hops step (length + 1) origin file) :
    ∃ via, step origin via ∧ Hops step length via file := by
  induction length generalizing file with
  | zero =>
      cases way with
      | onward stay last =>
          cases stay with
          | here => exact ⟨file, last, .here file⟩
  | succ length ih =>
      cases way with
      | onward way last =>
          obtain ⟨via, first, rest⟩ := ih way
          exact ⟨via, first, .onward rest last⟩

theorem zero_iff : Hops step 0 origin file ↔ origin = file := by
  constructor
  · intro way
    cases way with
    | here => rfl
  · rintro rfl
    exact .here origin

/-- A way stays one where there are more hops. -/
theorem mono {wider : String → String → Prop}
    (widens : ∀ source target, step source target → wider source target)
    (way : Hops step length origin file) : Hops wider length origin file := by
  induction way with
  | here origin => exact .here origin
  | onward _ last ih => exact .onward ih (widens _ _ last)

end Hops

noncomputable def distance (step : String → String → Prop) (start : List String)
    (file : String) : ℕ∞ :=
  ⨅ way : { length : Nat // ∃ origin ∈ start, Hops step length origin file },
    (way.val : ℕ∞)

section Distance

variable {step : String → String → Prop} {start : List String} {file via : String}

theorem distance_le_of_hops {origin : String} {length : Nat} (member : origin ∈ start)
    (way : Hops step length origin file) : distance step start file ≤ length :=
  iInf_le_of_le ⟨length, origin, member, way⟩ (le_refl _)

theorem distance_le_iff {bound : Nat} :
    distance step start file ≤ bound ↔
      ∃ length ≤ bound, ∃ origin ∈ start, Hops step length origin file := by
  constructor
  · intro near
    by_contra none
    have far : ((bound + 1 : Nat) : ℕ∞) ≤ distance step start file := by
      refine le_iInf fun way => ?_
      obtain ⟨length, origin, member, way⟩ := way
      have longer : bound < length := by
        by_contra short
        exact none ⟨length, Nat.le_of_not_lt short, origin, member, way⟩
      exact Nat.cast_le.mpr longer
    have contra : ((bound + 1 : Nat) : ℕ∞) ≤ bound := le_trans far near
    exact absurd (Nat.cast_le.mp contra) (Nat.not_succ_le_self bound)
  · rintro ⟨length, short, origin, member, way⟩
    exact le_trans (distance_le_of_hops member way) (Nat.cast_le.mpr short)

theorem distance_eq_zero_iff : distance step start file = 0 ↔ file ∈ start := by
  rw [← nonpos_iff_eq_zero, ← Nat.cast_zero, distance_le_iff]
  constructor
  · rintro ⟨length, short, origin, member, way⟩
    obtain rfl := Nat.le_zero.mp short
    exact Hops.zero_iff.mp way ▸ member
  · intro member
    exact ⟨0, le_refl 0, file, member, .here file⟩

theorem distance_hop_le (hop : step via file) {length : Nat}
    (near : distance step start via ≤ length) :
    distance step start file ≤ (length + 1 : Nat) := by
  obtain ⟨shorter, short, origin, member, way⟩ := distance_le_iff.mp near
  exact distance_le_iff.mpr
    ⟨shorter + 1, Nat.succ_le_succ short, origin, member, .onward way hop⟩

/-- The last hop of a shortest way starts one hop nearer. -/
theorem exists_predecessor {length : Nat}
    (far : distance step start file = (length + 1 : Nat)) :
    ∃ via, step via file ∧ distance step start via = length := by
  obtain ⟨shortest, short, origin, member, way⟩ := distance_le_iff.mp (le_of_eq far)
  have least := distance_le_of_hops member way
  rw [far, Nat.cast_le] at least
  obtain rfl : shortest = length + 1 := Nat.le_antisymm short least
  cases way with
  | onward way last =>
      rename_i via
      refine ⟨via, last, le_antisymm (distance_le_of_hops member way) ?_⟩
      by_contra nearer
      obtain ⟨steps, equal⟩ := ENat.ne_top_iff_exists.mp (ne_top_of_lt (not_le.mp nearer))
      rw [← equal, Nat.cast_le] at nearer
      have shortcut := distance_hop_le last (le_of_eq equal.symm)
      rw [far, Nat.cast_le] at shortcut
      exact nearer (Nat.le_of_succ_le_succ shortcut)

theorem exists_eq_of_distance_le {bound : Nat} (near : distance step start file ≤ bound) :
    ∃ length : Nat, distance step start file = length ∧ length ≤ bound := by
  obtain ⟨length, equal⟩ :=
    ENat.ne_top_iff_exists.mp (ne_top_of_le_ne_top (ENat.natCast_ne_top bound) near)
  exact ⟨length, equal.symm, Nat.cast_le.mp (equal ▸ near)⟩

end Distance

end TestImpact.Reach
