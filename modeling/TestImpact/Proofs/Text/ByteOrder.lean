import Mathlib.Data.String.Basic
import Mathlib.Tactic.SplitIfs

/-!
# The order of bytes

Texts are compared by their characters. The order is that of their bytes in UTF-8.
-/

namespace TestImpact.Text

def bytes (text : String) : List UInt8 := text.toUTF8.data.toList

theorem bytes_ofList (text : List Char) :
    bytes (String.ofList text) = text.flatMap String.utf8EncodeChar := by
  simp [bytes, String.toByteArray_ofList, List.utf8Encode]

theorem toNat_val_lt (c : Char) : c.val.toNat < 0x110000 := by
  rcases c.valid with low | ⟨_, high⟩
  · exact Nat.lt_trans low (by decide)
  · exact high

/-- The encodings of two characters are told apart by the first byte in which they differ, and
it has the order of the characters. -/
theorem encoded_append_lt {first second : Char} (below : first < second)
    (afterFirst afterSecond : List UInt8) :
    String.utf8EncodeChar first ++ afterFirst < String.utf8EncodeChar second ++ afterSecond := by
  have lower : first.val.toNat < second.val.toNat := below
  have firstBound := toNat_val_lt first
  have secondBound := toNat_val_lt second
  unfold String.utf8EncodeChar
  dsimp only
  generalize first.val.toNat = low at *
  generalize second.val.toNat = high at *
  have steps (value : Nat) :
      value / 4096 = value / 64 / 64 ∧ value / 262144 = value / 64 / 64 / 64 := by omega
  rw [(steps low).1, (steps low).2, (steps high).1, (steps high).2]
  split_ifs <;>
    simp (disch := omega) only [List.cons_append, List.nil_append, List.cons_lt_cons_iff,
      UInt8.lt_iff_toNat_lt, UInt8.toNat_ofNat', ← UInt8.toNat_inj, Nat.mod_eq_of_lt] <;>
    omega

theorem encoded_lt {first second : List Char} (below : first < second) :
    first.flatMap String.utf8EncodeChar < second.flatMap String.utf8EncodeChar := by
  induction first generalizing second with
  | nil =>
      cases second with
      | nil => exact absurd below (List.lt_irrefl [])
      | cons d rest =>
          rw [List.flatMap_nil, List.flatMap_cons]
          obtain ⟨byte, more, split⟩ := List.exists_cons_of_ne_nil (@String.utf8EncodeChar_ne_nil d)
          rw [split]
          exact List.nil_lt_cons byte _
  | cons c first ih =>
      cases second with
      | nil => exact absurd below (List.not_lt_nil _)
      | cons d rest =>
          rw [List.flatMap_cons, List.flatMap_cons]
          rcases List.cons_lt_cons_iff.mp below with lower | ⟨rfl, later⟩
          · exact encoded_append_lt lower _ _
          · exact List.append_left_lt (ih later)

/-- Texts have the order of their bytes. -/
theorem bytes_lt_bytes {first second : String} (below : first < second) :
    bytes first < bytes second := by
  rw [← @String.ofList_toList first, ← @String.ofList_toList second, bytes_ofList, bytes_ofList]
  exact encoded_lt (String.lt_iff_toList_lt.mp below)

end TestImpact.Text
