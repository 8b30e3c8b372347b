import TestImpact.Proofs.Text.ByteOrder
import TestImpact.Text.Lossy

/-!
# Texts in bytes are shown as they are

What is shown for bytes that are a text is this text, so only bytes that are none lose
anything.
-/

namespace TestImpact.Text

theorem lossyFrom_cons (underway : Option Underway) (byte : Nat) (rest : List Nat) :
    lossyFrom underway (byte :: rest) =
      (underway.elim (lead byte) (advance · byte)).1 ++
        lossyFrom (underway.elim (lead byte) (advance · byte)).2 rest := rfl

section Advance

variable {value least greatest digit : Nat} (above : least ≤ digit + 128)
  (below : digit + 128 ≤ greatest)

include above below

theorem advance_last :
    advance ⟨value, least, greatest, 0⟩ (digit + 128) =
      ([Char.ofNat (value * 64 + digit)], none) := by
  rw [advance, if_neg (by dsimp only; omega), Nat.add_sub_cancel]

theorem advance_more {behind : Nat} :
    advance ⟨value, least, greatest, behind + 1⟩ (digit + 128) =
      ([], some ⟨value * 64 + digit, 0x80, 0xBF, behind⟩) := by
  rw [advance, if_neg (by dsimp only; omega), Nat.add_sub_cancel]

end Advance

section Lengths

variable {value : Nat} (rest : List Nat)

theorem lossyFrom_two (least : 0x80 ≤ value) (most : value < 0x800) :
    lossyFrom none ([value / 64 % 32 + 192, value % 64 + 128] ++ rest) =
      Char.ofNat value :: lossyFrom none rest := by
  have first : lead (value / 64 % 32 + 192) = ([], some ⟨value / 64, 0x80, 0xBF, 0⟩) := by
    have bits : value / 64 % 32 + 192 - 0xC0 = value / 64 := by omega
    rw [lead, if_neg (by omega), if_neg (by omega), if_pos (by omega), bits]
  have whole : value / 64 * 64 + value % 64 = value := by omega
  rw [List.cons_append, lossyFrom_cons, Option.elim, first, List.cons_append, lossyFrom_cons,
    Option.elim, advance_last (by omega) (by omega), whole]
  rfl

theorem lossyFrom_three (least : 0x800 ≤ value) (most : value < 0x10000)
    (scalar : value < 0xD800 ∨ 0xDFFF < value) :
    lossyFrom none
        ([value / 4096 % 16 + 224, value / 64 % 64 + 128, value % 64 + 128] ++ rest) =
      Char.ofNat value :: lossyFrom none rest := by
  have bits : value / 4096 % 16 + 224 - 0xE0 = value / 4096 := by omega
  have first : lead (value / 4096 % 16 + 224) = ([], some ⟨value / 4096,
      if value / 4096 % 16 + 224 = 0xE0 then 0xA0 else 0x80,
      if value / 4096 % 16 + 224 = 0xED then 0x9F else 0xBF, 1⟩) := by
    rw [lead, if_neg (by omega), if_neg (by omega), if_neg (by omega), if_pos (by omega), bits]
  have whole : (value / 4096 * 64 + value / 64 % 64) * 64 + value % 64 = value := by omega
  rw [List.cons_append, lossyFrom_cons, Option.elim, first, List.cons_append, lossyFrom_cons,
    Option.elim, advance_more (by split <;> omega) (by split <;> omega), List.cons_append,
    lossyFrom_cons, Option.elim, advance_last (by omega) (by omega), whole]
  rfl

theorem lossyFrom_four (least : 0x10000 ≤ value) (most : value < 0x110000) :
    lossyFrom none
        ([value / 262144 % 8 + 240, value / 4096 % 64 + 128, value / 64 % 64 + 128,
          value % 64 + 128] ++ rest) =
      Char.ofNat value :: lossyFrom none rest := by
  have bits : value / 262144 % 8 + 240 - 0xF0 = value / 262144 := by omega
  have first : lead (value / 262144 % 8 + 240) = ([], some ⟨value / 262144,
      if value / 262144 % 8 + 240 = 0xF0 then 0x90 else 0x80,
      if value / 262144 % 8 + 240 = 0xF4 then 0x8F else 0xBF, 2⟩) := by
    rw [lead, if_neg (by omega), if_neg (by omega), if_neg (by omega), if_neg (by omega),
      if_pos (by omega), bits]
  have whole : ((value / 262144 * 64 + value / 4096 % 64) * 64 + value / 64 % 64) * 64 +
      value % 64 = value := by omega
  rw [List.cons_append, lossyFrom_cons, Option.elim, first, List.cons_append, lossyFrom_cons,
    Option.elim, advance_more (by split <;> omega) (by split <;> omega), List.cons_append,
    lossyFrom_cons, Option.elim, advance_more (by omega) (by omega), List.cons_append,
    lossyFrom_cons, Option.elim, advance_last (by omega) (by omega), whole]
  rfl

end Lengths

theorem map_toNat_ofNat (values : List Nat) (small : ∀ value ∈ values, value < 256) :
    (values.map UInt8.ofNat).map UInt8.toNat = values := by
  rw [List.map_map]
  refine (List.map_congr_left fun value member => ?_).trans (List.map_id values)
  exact UInt8.toNat_ofNat_of_lt (small value member)

/-- The bytes of a character are shown as the character, one case for each length. -/
theorem lossyFrom_utf8EncodeChar (c : Char) (rest : List Nat) :
    lossyFrom none ((String.utf8EncodeChar c).map UInt8.toNat ++ rest) =
      c :: lossyFrom none rest := by
  have valid : c.val.toNat < 0xD800 ∨ (0xDFFF < c.val.toNat ∧ c.val.toNat < 0x110000) := c.valid
  have same : Char.ofNat c.val.toNat = c := Char.ofNat_toNat c
  rw [String.utf8EncodeChar]
  generalize c.val.toNat = value at valid same
  subst same
  split
  · have bytes := map_toNat_ofNat [value] (by simp; omega)
    have first : lead value = ([Char.ofNat value], none) := if_pos (by omega)
    rw [← List.map_singleton, bytes, List.singleton_append, lossyFrom_cons, Option.elim, first]
    rfl
  split
  · have bytes := map_toNat_ofNat [value / 64 % 32 + 192, value % 64 + 128]
      (by simp; omega)
    exact (congrArg (lossyFrom none <| · ++ rest) bytes).trans
      (lossyFrom_two rest (by omega) (by omega))
  split
  · have bytes := map_toNat_ofNat
      [value / 4096 % 16 + 224, value / 64 % 64 + 128, value % 64 + 128]
      (by simp; omega)
    exact (congrArg (lossyFrom none <| · ++ rest) bytes).trans
      (lossyFrom_three rest (by omega) (by omega) (by omega))
  · have bytes := map_toNat_ofNat
      [value / 262144 % 8 + 240, value / 4096 % 64 + 128, value / 64 % 64 + 128,
        value % 64 + 128] (by simp; omega)
    exact (congrArg (lossyFrom none <| · ++ rest) bytes).trans
      (lossyFrom_four rest (by omega) (by omega))

theorem lossyFrom_utf8EncodeChars (text : List Char) :
    lossyFrom none ((text.flatMap String.utf8EncodeChar).map UInt8.toNat) = text := by
  induction text with
  | nil => rfl
  | cons c rest ih => rw [List.flatMap_cons, List.map_append, lossyFrom_utf8EncodeChar, ih]

theorem lossy_bytes (text : String) : lossy (bytes text) = text := by
  obtain ⟨letters, rfl⟩ : ∃ letters, text = String.ofList letters :=
    ⟨text.toList, String.ofList_toList.symm⟩
  rw [bytes_ofList, lossy, lossyFrom_utf8EncodeChars]

end TestImpact.Text
