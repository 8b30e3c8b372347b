import TestImpact.EngineConfig
import TestImpact.Proofs.Json.Numeral
import TestImpact.Proofs.Text.Trimming

/-!
# The depth in the environment

A text writes a number if it consists of digits, at least one and with at most one plus in
front, between any blanks. A number is taken from a text exactly if the text writes it and
it is below 2^64; a larger one is not taken for another.
-/

namespace TestImpact

/-- A text that writes a number in decimal digits. -/
inductive WritesNumber (raw : String) : Nat → Prop
  | written {before sign digits after : List Char}
      (text : raw.toList = before ++ (sign ++ digits) ++ after)
      (blankBefore : ∀ c ∈ before, Text.isBlank c = true)
      (plus : sign = [] ∨ sign = ['+'])
      (some : digits ≠ [])
      (decimal : ∀ c ∈ digits, c.isDigit = true)
      (blankAfter : ∀ c ∈ after, Text.isBlank c = true) :
      WritesNumber raw (Nat.ofDigits 10 (digits.reverse.map Json.digitValue))

/-- Texts in which something other than a number is written. -/
inductive Malformed (raw : String) : Prop
  /-- There is no digit, as in an empty text. -/
  | digitless (none : ∀ c ∈ raw.toList, c.isDigit = false)
  /-- There is a sign, a letter or another mark, and it is no plus in front of the rest. -/
  | stray {front behind : List Char} {c : Char} (text : raw.toList = front ++ c :: behind)
      (other : c.isDigit = false) (visible : Text.isBlank c = false)
      (inside : c = '+' → ∃ d ∈ front, Text.isBlank d = false)
  /-- There is a blank between visible characters. -/
  | gap {front behind : List Char} {c : Char} (text : raw.toList = front ++ c :: behind)
      (blank : Text.isBlank c = true) (begun : ∃ d ∈ front, Text.isBlank d = false)
      (goesOn : ∃ d ∈ behind, Text.isBlank d = false)

theorem isBlank_eq_false_of_mem {sign digits : List Char} (plus : sign = [] ∨ sign = ['+'])
    (decimal : ∀ c ∈ digits, c.isDigit = true) {c : Char} (member : c ∈ sign ++ digits) :
    Text.isBlank c = false := by
  rcases List.mem_append.mp member with signed | digit
  · rcases plus with rfl | rfl
    · cases signed
    · obtain rfl := List.mem_singleton.mp signed
      decide
  · exact Text.isBlank_eq_false_of_isDigit (decimal c digit)

theorem not_mem_of_run {kind : Char → Bool} {run : List Char} (all : ∀ c ∈ run, kind c = true)
    {c : Char} (other : kind c = false) : c ∉ run :=
  fun member => Bool.eq_false_iff.mp other (all c member)

/-- A part with something visible in it reaches beyond the blanks in front. -/
theorem exists_begun {before rest front behind : List Char}
    (text : before ++ rest = front ++ behind)
    (blankBefore : ∀ c ∈ before, Text.isBlank c = true)
    (seen : ∃ d ∈ front, Text.isBlank d = false) :
    ∃ c begun, front = before ++ c :: begun ∧ rest = c :: begun ++ behind := by
  obtain ⟨d, member, visible⟩ := seen
  have outside : d ∉ before := not_mem_of_run blankBefore visible
  rcases List.append_eq_append_iff.mp text with ⟨begun, rfl, split⟩ | ⟨left, rfl, _⟩
  · cases begun with
    | nil =>
        rw [List.append_nil] at member
        exact absurd member outside
    | cons c begun => exact ⟨c, begun, rfl, split⟩
  · exact absurd (List.mem_append_left left member) outside

/-- What stands between visible characters stands between the blanks at both ends. -/
theorem mem_of_between {before core after front behind : List Char} {c : Char}
    (text : before ++ (core ++ after) = front ++ c :: behind)
    (blankBefore : ∀ c ∈ before, Text.isBlank c = true)
    (blankAfter : ∀ c ∈ after, Text.isBlank c = true)
    (begun : ∃ d ∈ front, Text.isBlank d = false)
    (goesOn : ∃ d ∈ behind, Text.isBlank d = false) : c ∈ core := by
  obtain ⟨d, late, visible⟩ := goesOn
  have notAfter : d ∉ after := not_mem_of_run blankAfter visible
  obtain ⟨_, _, _, rest⟩ := exists_begun text blankBefore begun
  rcases List.append_eq_append_iff.mp rest with ⟨left, _, split⟩ | ⟨left, inner, split⟩
  · exact absurd (by rw [split]; simp [late]) notAfter
  · cases left with
    | nil => exact absurd (by rw [← List.nil_append after, ← split]; simp [late]) notAfter
    | cons first left =>
        obtain ⟨rfl, _⟩ := List.cons.inj split
        rw [inner]
        simp

/-- No number stands in a malformed text: the mark, the blank or the lack of digits would
have to be in the number. -/
theorem Malformed.not_writesNumber {raw : String} (malformed : Malformed raw) (number : Nat) :
    ¬ WritesNumber raw number := by
  intro writes
  cases writes with
  | @written before sign digits after text blankBefore plus some decimal blankAfter =>
      have visible := fun c => @isBlank_eq_false_of_mem sign digits plus decimal c
      rw [List.append_assoc] at text
      cases malformed with
      | digitless none =>
          obtain ⟨c, digit⟩ := List.exists_mem_of_ne_nil digits some
          have member : c ∈ raw.toList := by rw [text]; simp [digit]
          exact not_mem_of_run decimal (none c member) digit
      | @stray front behind c found other shown inside =>
          have notBefore : c ∉ before := not_mem_of_run blankBefore shown
          have notDigit : c ∉ digits := not_mem_of_run decimal other
          have notAfter : c ∉ after := not_mem_of_run blankAfter shown
          have member : c ∈ before ++ (sign ++ digits ++ after) := by rw [← text, found]; simp
          have signed : c ∈ sign := by simpa [notBefore, notDigit, notAfter] using member
          rcases plus with rfl | rfl
          · cases signed
          · obtain rfl := List.mem_singleton.mp signed
            obtain ⟨d, begun, _, rest⟩ :=
              exists_begun (text.symm.trans found) blankBefore (inside rfl)
            have behindSign : digits ++ after = begun ++ '+' :: behind := (List.cons.inj rest).2
            have later : '+' ∈ digits ++ after := by rw [behindSign]; simp
            rcases List.mem_append.mp later with digit | blank
            · exact notDigit digit
            · exact notAfter blank
      | @gap front behind c found blank begun goesOn =>
          have member : c ∈ sign ++ digits :=
            mem_of_between (text.symm.trans found) blankBefore blankAfter begun goesOn
          exact Bool.eq_false_iff.mp (visible c member) blank

namespace EngineConfig

/-- A sign is taken off digits, and nothing else is. -/
theorem unsignedDigits_append {sign digits : List Char} (plus : sign = [] ∨ sign = ['+'])
    (decimal : ∀ c ∈ digits, c.isDigit = true) : unsignedDigits (sign ++ digits) = digits := by
  rcases plus with rfl | rfl
  · rw [List.nil_append]
    unfold unsignedDigits
    split
    · rename_i rest
      cases decimal '+' List.mem_cons_self
    · rfl
  · rfl

theorem exists_sign (text : List Char) :
    ∃ sign, (sign = [] ∨ sign = ['+']) ∧ text = sign ++ unsignedDigits text := by
  unfold unsignedDigits
  split
  · exact ⟨['+'], .inr rfl, rfl⟩
  · exact ⟨[], .inl rfl, rfl⟩

/-- What is written between the blanks says whether a number is written, and which. -/
theorem writesNumber_iff {raw : String} {number : Nat} : WritesNumber raw number ↔
    unsignedDigits (Text.trimChars raw.toList) ≠ [] ∧
      (∀ c ∈ unsignedDigits (Text.trimChars raw.toList), c.isDigit = true) ∧
      number = Json.naturalValue (unsignedDigits (Text.trimChars raw.toList)) := by
  constructor
  · intro writes
    cases writes with
    | @written before sign digits after text blankBefore plus some decimal blankAfter =>
        have visible := fun c => @isBlank_eq_false_of_mem sign digits plus decimal c
        have core : Text.trimChars raw.toList = sign ++ digits :=
          Text.trimChars_eq_iff.mpr ⟨before, after, text, blankBefore, blankAfter,
            fun c first => visible c (List.mem_of_mem_head? first),
            fun c last => visible c (List.mem_reverse.mp (List.mem_of_mem_head? last))⟩
        rw [core, unsignedDigits_append plus decimal]
        exact ⟨some, decimal, (Json.naturalValue_eq_ofDigits digits).symm⟩
  · rintro ⟨some, decimal, rfl⟩
    obtain ⟨before, after, text, blankBefore, blankAfter, _, _⟩ :=
      Text.trimChars_eq_iff.mp (rfl : Text.trimChars raw.toList = _)
    obtain ⟨sign, plus, split⟩ := exists_sign (Text.trimChars raw.toList)
    rw [split] at text
    rw [Json.naturalValue_eq_ofDigits]
    exact .written text blankBefore plus some decimal blankAfter

/-- Any number of zeros may stand in front of the digits of a number. -/
theorem writesNumber_toDigits (count number : Nat) :
    WritesNumber (String.ofList (List.replicate count '0' ++ Nat.toDigits 10 number)) number := by
  have value : Nat.ofDigits 10
      ((List.replicate count '0' ++ Nat.toDigits 10 number).reverse.map Json.digitValue) =
        number := by
    rw [← Json.naturalValue_eq_ofDigits, Json.naturalValue_zeros_append,
      Json.naturalValue_toDigits]
  have decimal : ∀ c ∈ List.replicate count '0' ++ Nat.toDigits 10 number, c.isDigit = true := by
    refine List.forall_mem_append.mpr ⟨fun c zero => ?_, fun c => Json.isDigit_of_mem_toDigits⟩
    rw [List.eq_of_mem_replicate zero]
    rfl
  have some : List.replicate count '0' ++ Nat.toDigits 10 number ≠ [] :=
    List.append_ne_nil_of_right_ne_nil _ Nat.toDigits_ne_nil
  have writes := @WritesNumber.written
    (String.ofList (List.replicate count '0' ++ Nat.toDigits 10 number)) [] []
    (List.replicate count '0' ++ Nat.toDigits 10 number) []
    (by rw [String.toList_ofList, List.nil_append, List.nil_append, List.append_nil]) nofun
    (.inl rfl) some decimal nofun
  rwa [value] at writes

/-- A number is taken exactly if it is written and fits into 64 bits. -/
theorem parseDepth?_eq_some_iff {raw : String} {depth : Nat} :
    parseDepth? raw = some depth ↔ WritesNumber raw depth ∧ depth < Nat.pow 2 64 := by
  rw [writesNumber_iff, parseDepth?]
  generalize unsignedDigits (Text.trimChars raw.toList) = digits
  have refused : digits.isEmpty ∨ !digits.all Char.isDigit ↔
      ¬ (digits ≠ [] ∧ ∀ c ∈ digits, c.isDigit = true) := by
    rw [List.isEmpty_iff, Bool.not_eq_true', ← Bool.not_eq_true, List.all_eq_true, not_and_or,
      not_not]
  dsimp only
  split
  · rename_i unreadable
    constructor
    · exact nofun
    · rintro ⟨⟨some, decimal, _⟩, _⟩
      exact absurd ⟨some, decimal⟩ (refused.mp unreadable)
  · rename_i readable
    obtain ⟨some, decimal⟩ := not_not.mp (mt refused.mpr readable)
    rw [Option.ite_none_right_eq_some, Option.some.injEq]
    constructor
    · rintro ⟨small, rfl⟩
      exact ⟨⟨some, decimal, rfl⟩, small⟩
    · rintro ⟨⟨_, _, rfl⟩, small⟩
      exact ⟨small, rfl⟩

/-- Nothing is taken exactly if no number is written but one beyond 64 bits. -/
theorem parseDepth?_eq_none_iff {raw : String} :
    parseDepth? raw = none ↔ ∀ number, WritesNumber raw number → Nat.pow 2 64 ≤ number := by
  rw [Option.eq_none_iff_forall_ne_some]
  refine forall_congr' fun number => ?_
  rw [Ne, parseDepth?_eq_some_iff, not_and, Nat.not_lt]

example : parseDepth? "\u3000+0016 " = some 16 := by decide

example : parseDepth? "18446744073709551616" = none := by decide

end EngineConfig

end TestImpact
