import TestImpact.Json.Quoted
import TestImpact.Json.Value

/-!
# Quoted text is read back

Each character of a text is written so that it is cut out as one piece, and no piece is
half of a pair. So a text between quotation marks is read as it was, whatever follows.
-/

namespace TestImpact.Json

/-- The piece that a written character is cut into: a unit if it is written with four
digits, and the character itself otherwise. -/
def pieceOf (c : Char) : Piece :=
  if c.toNat < 32 ∧ c ∉ ['\x08', '\x0c', '\n', '\r', '\t'] then .unit c.toNat else .char c

theorem unit?_control {code : Nat} (control : code < 32) :
    unit? '0' '0' (hexDigit (code / 16)) (hexDigit (code % 16)) = some code := by
  revert code
  decide

theorem pieces_escaped (c : Char) (rest : List Char) :
    pieces (escaped c ++ rest) = (pieceOf c :: (pieces rest).1, (pieces rest).2) := by
  by_cases short : c ∈ ['"', '\\', '\x08', '\x0c', '\n', '\r', '\t']
  · simp only [List.mem_cons, List.not_mem_nil, or_false] at short
    rcases short with rfl | rfl | rfl | rfl | rfl | rfl | rfl <;> rfl
  · simp only [List.mem_cons, List.not_mem_nil, or_false, not_or] at short
    obtain ⟨quote, backslash, back, feed, line, carriage, tab⟩ := short
    simp only [escaped, pieceOf, quote, backslash, back, feed, line, carriage, tab, if_false,
      List.mem_cons, List.not_mem_nil, or_false, not_false_eq_true, and_true]
    split
    · rename_i control
      simp [pieces, unit?_control control]
    · rename_i large
      have printable : ¬ c < ' ' := fun below => large below
      simp [pieces, printable, backslash]

theorem pieces_written (value rest : List Char) :
    pieces (value.flatMap escaped ++ '"' :: rest) = (value.map pieceOf, .ok rest) := by
  induction value with
  | nil => rfl
  | cons c value ih => rw [List.flatMap_cons, List.append_assoc, pieces_escaped, ih, List.map_cons]

/-- The pieces of written characters are put together as these characters. -/
theorem assemble_pieceOf (value rest : List Char) :
    assemble (.ok rest) (value.map pieceOf) = .ok (value, rest) := by
  induction value with
  | nil => rfl
  | cons c value ih =>
      rw [List.map_cons, pieceOf]
      split
      · rename_i control
        have low : c.toNat < 0xD800 := Nat.lt_trans control.1 (by decide)
        have notTrailing : isTrailing c.toNat = false := by simp [isTrailing]; omega
        have notLeading : isLeading c.toNat = false := by simp [isLeading]; omega
        unfold assemble
        rw [if_neg (Bool.eq_false_iff.mp notTrailing), if_neg (Bool.eq_false_iff.mp notLeading),
          ih, Except.map, Char.ofNat_toNat]
      · rw [assemble, ih]
        rfl

/-- A written text is read back behind its opening mark. -/
theorem readQuoted_written (value : String) (rest : List Char) :
    readQuoted (value.toList.flatMap escaped ++ '"' :: rest) = .ok (value, rest) := by
  rw [readQuoted, pieces_written]
  dsimp only
  rw [assemble_pieceOf, Except.map, String.ofList_toList]

end TestImpact.Json
