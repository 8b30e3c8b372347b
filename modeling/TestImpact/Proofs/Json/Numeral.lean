import Mathlib.Data.List.TakeDrop
import Mathlib.Data.Nat.Digits.Defs
import TestImpact.Json.Reader

/-!
# Whole numbers are read back

A whole number is written as its digits, without a zero in front. If it fits into 64 bits
and neither a digit, nor a point, nor an exponent follows, it is read as it was. And every
whole number that is read fits into 64 bits.
-/

namespace TestImpact.Json

section Outcomes

variable {ε α β : Type} {result : β}

/-- Steps that succeed one after the other have each succeeded. -/
theorem exists_of_bind_eq_ok {first : Except ε α} {next : α → Except ε β}
    (ended : (first >>= next) = .ok result) : ∃ value, first = .ok value ∧ next value = .ok result := by
  cases first with
  | error fault => cases ended
  | ok value => exact ⟨value, rfl, ended⟩

theorem exists_of_map_eq_ok {first : Except ε α} {change : α → β}
    (ended : first.map change = .ok result) : ∃ value, first = .ok value ∧ change value = result := by
  cases first with
  | error fault => cases ended
  | ok value => exact ⟨value, rfl, Except.ok.inj ended⟩

end Outcomes

/-- Whether a numeral ends in front of a text: no digit, point or exponent follows. -/
def EndsNumeral (rest : List Char) : Prop :=
  ∀ c ∈ rest.head?, c.isDigit = false ∧ c ≠ '.' ∧ c ≠ 'e' ∧ c ≠ 'E'

namespace EndsNumeral

variable {rest : List Char}

theorem not_isDigit (ends : EndsNumeral rest) : rest.head?.any Char.isDigit = false := by
  cases rest with
  | nil => rfl
  | cons c rest => exact (ends c rfl).1

theorem scanFraction_eq (ends : EndsNumeral rest) : scanFraction rest = .ok ([], rest) := by
  unfold scanFraction
  split
  · exact absurd rfl (ends '.' rfl).2.1
  · rfl

theorem scanExponent_eq (ends : EndsNumeral rest) : scanExponent rest = .ok (none, rest) := by
  unfold scanExponent
  split
  · rename_i c more
    obtain ⟨_, _, small, large⟩ := ends c rfl
    exact if_neg (not_or.mpr ⟨small, large⟩)
  · rfl

end EndsNumeral

/-- Whether a text may follow a value: there is nothing, or a mark that ends values. -/
def Closes : List Char → Prop
  | [] => True
  | c :: _ => c = ',' ∨ c = ']' ∨ c = '\x7d'

theorem Closes.endsNumeral {rest : List Char} (closes : Closes rest) : EndsNumeral rest := by
  cases rest with
  | nil => exact fun _ none => nomatch none
  | cons c rest =>
      rintro _ ⟨⟩
      obtain rfl | rfl | rfl := closes <;> decide

theorem isDigit_of_mem_toDigits {value : Nat} {c : Char} (member : c ∈ Nat.toDigits 10 value) :
    c.isDigit = true :=
  Nat.isDigit_of_mem_toDigits (by decide) (by decide) member

theorem exists_toDigits_eq_cons (value : Nat) : ∃ first more,
    Nat.toDigits 10 value = first :: more ∧ first.isDigit = true := by
  cases written : Nat.toDigits 10 value with
  | nil => exact absurd written Nat.toDigits_ne_nil
  | cons first more =>
      exact ⟨first, more, rfl, isDigit_of_mem_toDigits (written ▸ List.mem_cons_self)⟩

theorem naturalValue_toDigits (value : Nat) : naturalValue (Nat.toDigits 10 value) = value := by
  have same : naturalValue (Nat.toDigits 10 value) =
      Nat.ofDigitChars 10 (Nat.toDigits 10 value) 0 := by
    rw [naturalValue, Nat.ofDigitChars]
    congr 1
    funext sum c
    rw [digitValue, Nat.mul_comm]
  rw [same, Nat.ofDigitChars_toDigits (by decide) (by decide)]

theorem naturalValue_eq_ofDigits (digits : List Char) :
    naturalValue digits = Nat.ofDigits 10 (digits.reverse.map digitValue) := by
  rw [Nat.ofDigits_eq_foldr, List.foldr_map, List.foldr_reverse, naturalValue]
  congr 1
  funext value c
  rw [Nat.cast_id]
  omega

/-- Zeros in front do not count. -/
theorem naturalValue_zeros_append (count : Nat) (digits : List Char) :
    naturalValue (List.replicate count '0' ++ digits) = naturalValue digits := by
  have zero : digitValue '0' = 0 := rfl
  rw [naturalValue_eq_ofDigits, naturalValue_eq_ofDigits, List.reverse_append, List.map_append,
    List.reverse_replicate, List.map_replicate, zero, Nat.ofDigits_append_replicate_zero]

/-- A zero in front stands alone. -/
theorem eq_nil_of_toDigits_eq_zero_cons {value : Nat} {rest : List Char}
    (written : Nat.toDigits 10 value = '0' :: rest) : rest = [] := by
  induction value using Nat.strongRecOn generalizing rest with
  | ind value ih =>
      rw [Nat.toDigits_eq_if (by decide)] at written
      split at written
      · exact (List.cons.inj written).2.symm
      · rename_i large
        have smaller : value / 10 < value := Nat.div_lt_self (by omega) (by decide)
        cases front : Nat.toDigits 10 (value / 10) with
        | nil => exact absurd front Nat.toDigits_ne_nil
        | cons first more =>
            rw [front] at written
            obtain ⟨rfl, _⟩ := List.cons.inj written
            obtain rfl := ih _ smaller front
            have zero : value / 10 = 0 := by
              rw [← naturalValue_toDigits (value / 10), front]
              rfl
            omega

theorem span_isDigit {digits rest : List Char} (all : ∀ c ∈ digits, c.isDigit = true)
    (stops : rest.head?.any Char.isDigit = false) :
    (digits ++ rest).span Char.isDigit = (digits, rest) := by
  have behind : rest.takeWhile Char.isDigit = [] ∧ rest.dropWhile Char.isDigit = rest := by
    cases rest with
    | nil => exact ⟨rfl, rfl⟩
    | cons c rest =>
        have other : c.isDigit = false := stops
        simp [other]
  rw [List.span_eq_takeWhile_dropWhile, List.takeWhile_append_of_pos all,
    List.dropWhile_append_of_pos all, behind.1, behind.2, List.append_nil]

theorem scanWhole_toDigits (value : Nat) {rest : List Char} (ends : EndsNumeral rest) :
    scanWhole (Nat.toDigits 10 value ++ rest) = .ok (Nat.toDigits 10 value, rest) := by
  have digits : ∀ c ∈ Nat.toDigits 10 value, c.isDigit = true := fun _ =>
    isDigit_of_mem_toDigits
  have spanned := span_isDigit digits ends.not_isDigit
  cases written : Nat.toDigits 10 value with
  | nil => exact absurd written Nat.toDigits_ne_nil
  | cons first more =>
      rw [written] at spanned
      rw [List.cons_append] at spanned ⊢
      unfold scanWhole
      split
      · rename_i same
        obtain ⟨rfl, rfl⟩ := List.cons.inj same
        obtain rfl := eq_nil_of_toDigits_eq_zero_cons written
        rw [List.nil_append, ends.not_isDigit]
        rfl
      · rw [spanned]

theorem dropBlank_cons {c : Char} (visible : isBlank c = false) (rest : List Char) :
    dropBlank (c :: rest) = c :: rest :=
  List.dropWhile_cons_of_neg (Bool.eq_false_iff.mp visible)

theorem isBlank_of_isDigit {c : Char} (digit : c.isDigit = true) : isBlank c = false := by
  have apart : ∀ blank ∈ [' ', '\n', '\t', '\r'], c ≠ blank := by
    rintro blank member rfl
    simp only [List.mem_cons, List.not_mem_nil, or_false] at member
    rcases member with rfl | rfl | rfl | rfl <;> cases digit
  simpa [isBlank, and_assoc] using apart

/-- A whole number in front of a text that does not go on with it is read back. -/
theorem readNatural_toDigits {value : Nat} (small : value < Nat.pow 2 64) {rest : List Char}
    (ends : EndsNumeral rest) :
    readNatural (Nat.toDigits 10 value ++ rest) = .ok (value, rest) := by
  have quantity : Numeral.value? ⟨false, Nat.toDigits 10 value, [], none⟩ =
      some (.natural value) := by
    have fits : naturalValue (Nat.toDigits 10 value) < Nat.pow 2 64 := by
      rwa [naturalValue_toDigits]
    rw [Numeral.value?, if_pos (by simpa [Numeral.isNatural] using fits), naturalValue_toDigits]
  have scanned : scanNumeral (Nat.toDigits 10 value ++ rest) =
      .ok (⟨false, Nat.toDigits 10 value, [], none⟩, rest) := by
    have whole := scanWhole_toDigits value ends
    have unsigned : ∀ digits, Nat.toDigits 10 value ++ rest ≠ '-' :: digits := by
      intro digits signed
      obtain ⟨first, more, written, digit⟩ := exists_toDigits_eq_cons value
      rw [written] at signed
      obtain ⟨rfl, _⟩ := List.cons.inj signed
      cases digit
    unfold scanNumeral
    split
    rename_i negative digits same
    split at same
    · rename_i signed
      exact absurd signed (unsigned _)
    · cases same
      rw [whole]
      dsimp only [bind, Except.bind]
      rw [ends.scanFraction_eq]
      dsimp only
      rw [ends.scanExponent_eq]
      rfl
  obtain ⟨first, more, written, digit⟩ := exists_toDigits_eq_cons value
  rw [written] at quantity
  rw [written, List.cons_append] at scanned ⊢
  have read : readQuantity (first :: (more ++ rest)) = .ok (.natural value, rest) := by
    rw [readQuantity, dropBlank_cons (isBlank_of_isDigit digit)]
    dsimp only
    rw [if_pos (Or.inr digit), scanned]
    dsimp only [bind, Except.bind]
    rw [quantity]
  rw [readNatural, read]
  rfl

theorem Numeral.lt_of_value? {numeral : Numeral} {value : Nat}
    (stands : numeral.value? = some (.natural value)) : value < Nat.pow 2 64 := by
  rw [value?] at stands
  split at stands
  · rename_i natural
    cases stands
    simp only [isNatural, Bool.and_eq_true, decide_eq_true_eq] at natural
    exact natural.2
  · obtain ⟨magnitude, _, other⟩ := Option.map_eq_some_iff.mp stands
    cases other

theorem exists_numeral_of_readQuantity {text rest : List Char} {quantity : Quantity}
    (read : readQuantity text = .ok (quantity, rest)) :
    ∃ numeral : Numeral, numeral.value? = some quantity := by
  unfold readQuantity at read
  split at read
  · cases read
  split at read
  · obtain ⟨⟨numeral, after⟩, _, valued⟩ := exists_of_bind_eq_ok read
    dsimp only at valued
    split at valued
    · rename_i stands
      cases valued
      exact ⟨numeral, stands⟩
    · cases valued
  · cases read

/-- A whole number that is read fits into 64 bits. -/
theorem lt_of_readNatural {text rest : List Char} {value : Nat}
    (read : readNatural text = .ok (value, rest)) : value < Nat.pow 2 64 := by
  obtain ⟨⟨quantity, after⟩, found, natural⟩ := exists_of_bind_eq_ok read
  obtain ⟨numeral, stands⟩ := exists_numeral_of_readQuantity found
  cases quantity with
  | natural number =>
      cases natural
      exact numeral.lt_of_value? stands
  | double number => cases natural

end TestImpact.Json
