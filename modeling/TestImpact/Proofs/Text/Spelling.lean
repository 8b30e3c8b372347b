import Mathlib.Data.List.Forall2

/-!
# Written forms

What the two formats have in common: a value is not written in one way only. Characters
between quotation marks have several forms, hexadecimal digits are in either letter case,
and blanks may stand between the parts. A written form is a relation between values and
texts, told without any reader.
-/

namespace TestImpact.Text

section Hexadecimal

def IsHexDigit (value : Nat) (c : Char) : Prop :=
  value < 16 ∧ (c = Nat.digitChar value ∨ c = (Nat.digitChar value).toUpper)

/-- Hexadecimal digits with their value. -/
inductive WritesHex : Nat → List Char → Prop
  | nil : WritesHex 0 []
  | snoc {value last : Nat} {digits : List Char} {c : Char} (front : WritesHex value digits)
      (digit : IsHexDigit last c) : WritesHex (value * 16 + last) (digits ++ [c])

def hexDigits (value : Nat) : (count : Nat) → List Char
  | 0 => []
  | count + 1 => hexDigits (value / 16) count ++ [Nat.digitChar (value % 16)]

theorem length_hexDigits (value count : Nat) : (hexDigits value count).length = count := by
  induction count generalizing value with
  | zero => rfl
  | succ count ih => rw [hexDigits, List.length_append, ih, List.length_singleton]

theorem writesHex_hexDigits {value count : Nat} (small : value < Nat.pow 16 count) :
    WritesHex value (hexDigits value count) := by
  induction count generalizing value with
  | zero =>
      obtain rfl : value = 0 := Nat.lt_one_iff.mp small
      exact .nil
  | succ count ih =>
      have front : value / 16 < Nat.pow 16 count := Nat.div_lt_of_lt_mul (by
        rwa [Nat.mul_comm])
      have digit : IsHexDigit (value % 16) (Nat.digitChar (value % 16)) :=
        ⟨Nat.mod_lt value (by decide), .inl rfl⟩
      have whole := WritesHex.snoc (ih front) digit
      rwa [Nat.div_add_mod'] at whole

/-- Digits are read one after the other by any reader of the sixteen digits in either case. -/
theorem WritesHex.foldlM_eq {digit? : Char → Option Nat}
    (reads : ∀ value < 16, digit? (Nat.digitChar value) = some value ∧
      digit? (Nat.digitChar value).toUpper = some value) {value : Nat}
    {digits : List Char} (writes : WritesHex value digits) :
    digits.foldlM (fun sum c => (digit? c).map (sum * 16 + ·)) 0 = some value := by
  induction writes with
  | nil => rfl
  | @snoc value last digits c front digit ih =>
      obtain ⟨small, form⟩ := digit
      have read : digit? c = some last := by
        rcases form with rfl | rfl
        · exact (reads last small).1
        · exact (reads last small).2
      rw [List.foldlM_append, ih]
      simp [read]

end Hexadecimal

def Quotes (form : Char → List Char → Prop) (value : String) (text : List Char) : Prop :=
  ∃ forms, List.Forall₂ form value.toList forms ∧ text = '"' :: (forms.flatten ++ ['"'])

theorem quotes_flatMap {form : Char → List Char → Prop} {write : Char → List Char}
    (each : ∀ c, form c (write c)) (value : String) :
    Quotes form value ('"' :: (value.toList.flatMap write ++ ['"'])) := by
  refine ⟨value.toList.map write, ?_, by rw [List.flatMap_def]⟩
  induction value.toList with
  | nil => exact .nil
  | cons c content ih => exact .cons (each c) ih

section Separated

variable {α : Type} {blanks : List Char} {spells : α → List Char → Prop}

/-- Items with commas between them, each with blanks around it. -/
inductive Separated (blanks : List Char) (spells : α → List Char → Prop) :
    List α → List Char → Prop
  | last {item : α} {front text back : List Char} (before : front ⊆ blanks)
      (spelled : spells item text) (behind : back ⊆ blanks) :
      Separated blanks spells [item] (front ++ text ++ back)
  | more {item : α} {items : List α} {front text back rest : List Char} (before : front ⊆ blanks)
      (spelled : spells item text) (behind : back ⊆ blanks)
      (later : Separated blanks spells items rest) :
      Separated blanks spells (item :: items) (front ++ text ++ back ++ ',' :: rest)

/-- Items between brackets. -/
inductive Enclosed (blanks : List Char) (opening closing : Char) (spells : α → List Char → Prop) :
    List α → List Char → Prop
  | none {gap : List Char} (blank : gap ⊆ blanks) :
      Enclosed blanks opening closing spells [] (opening :: (gap ++ [closing]))
  | some {items : List α} {body : List Char} (separated : Separated blanks spells items body) :
      Enclosed blanks opening closing spells items (opening :: (body ++ [closing]))

/-- Behind its first blanks a row of items goes on with its first item, and it is as long as
it has items. -/
theorem Separated.begins {mark : Char} {items : List α} {body : List Char}
    (opens : ∀ {item : α} {text : List Char}, spells item text →
      ∃ c rest, text = c :: rest ∧ c ∉ blanks ∧ c ≠ mark)
    (separated : Separated blanks spells items body) :
    ∃ gap c rest, body = gap ++ c :: rest ∧ gap ⊆ blanks ∧ c ∉ blanks ∧ c ≠ mark ∧
      items.length ≤ rest.length + 1 := by
  induction separated with
  | @last item front text back before spelled behind =>
      obtain ⟨c, rest, rfl, visible, other⟩ := opens spelled
      exact ⟨front, c, rest ++ back, by simp, before, visible, other, by simp⟩
  | @more item items front text back rest before spelled behind later ih =>
      obtain ⟨c, inner, rfl, visible, other⟩ := opens spelled
      obtain ⟨gap, d, last, rfl, _, _, _, shorter⟩ := ih
      refine ⟨front, c, inner ++ back ++ ',' :: (gap ++ d :: last), by simp, before, visible,
        other, ?_⟩
      simp only [List.length_append, List.length_cons]
      omega

variable {write : α → List Char}

/-- Spelled items make up a row with a comma, and perhaps blanks, between any two of them. -/
theorem separated_intercalate {front gap : List Char} (before : front ⊆ blanks)
    (between : gap ⊆ blanks) {items : List α} (filled : items ≠ [])
    (each : ∀ item ∈ items, spells item (write item)) :
    Separated blanks spells items (front ++ (',' :: gap).intercalate (items.map write)) := by
  induction items generalizing front with
  | nil => exact absurd rfl filled
  | cons item items ih =>
      obtain ⟨spelled, others⟩ := List.forall_mem_cons.mp each
      cases items with
      | nil =>
          have alone := Separated.last before spelled (List.nil_subset blanks)
          rw [List.map_cons, List.map_nil, List.intercalate_singleton]
          rwa [List.append_nil] at alone
      | cons next items =>
          have later := ih between (List.cons_ne_nil next items) others
          have row := Separated.more before spelled (List.nil_subset blanks) later
          rw [List.append_nil, List.append_assoc] at row
          rw [List.map_cons, List.map_cons, List.intercalate_cons_cons]
          simpa using row

theorem enclosed_intercalate {gap : List Char} (between : gap ⊆ blanks) (opening closing : Char)
    {items : List α} (each : ∀ item ∈ items, spells item (write item)) :
    Enclosed blanks opening closing spells items
      (opening :: ((',' :: gap).intercalate (items.map write) ++ [closing])) := by
  cases items with
  | nil => exact .none (List.nil_subset blanks)
  | cons item items =>
      exact .some (separated_intercalate (List.nil_subset blanks) between
        (List.cons_ne_nil item items) each)

end Separated

end TestImpact.Text
