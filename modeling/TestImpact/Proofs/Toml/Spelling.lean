import TestImpact.Proofs.Json.Numeral
import TestImpact.Proofs.Text.Search
import TestImpact.Proofs.Text.Spelling
import TestImpact.Toml.Document

/-!
# TOML in many spellings

A document with one line for each key may have spaces and tabs between its parts, any form
of a character between double quotes, and either line break. However its lines are spelled,
they are read as the keys with their values.
-/

namespace TestImpact.Toml

open Text (Enclosed enclosed_intercalate hexDigits length_hexDigits Quotes quotes_flatMap Separated
  WritesHex writesHex_hexDigits)

def blanks : List Char := [' ', '\t']

def shortEscapes : List (Char × Char) :=
  [('b', '\x08'), ('t', '\t'), ('n', '\n'), ('f', '\x0c'), ('r', '\r'), ('"', '"'), ('\\', '\\')]

/-- What may stand behind the backslash of an escape for a character. -/
inductive Escapes : Char → List Char → Prop
  | short {letter c : Char} (listed : (letter, c) ∈ shortEscapes) : Escapes c [letter]
  | four {c : Char} {digits : List Char} (count : digits.length = 4)
      (writes : WritesHex c.toNat digits) : Escapes c ('u' :: digits)
  | eight {c : Char} {digits : List Char} (count : digits.length = 8)
      (writes : WritesHex c.toNat digits) : Escapes c ('U' :: digits)

/-- The forms of a character between double quotes. -/
inductive SpellsChar : Char → List Char → Prop
  | plain {c : Char} (visible : c = '\t' ∨ ' ' ≤ c) (noDelete : c ≠ '\x7f') (noQuote : c ≠ '"')
      (noBackslash : c ≠ '\\') : SpellsChar c [c]
  | escaped {c : Char} {form : List Char} (escapes : Escapes c form) : SpellsChar c ('\\' :: form)

section Texts

theorem charOfHex?_eq_some {c : Char} {digits : List Char} (writes : WritesHex c.toNat digits) :
    charOfHex? digits = some c := by
  have each : ∀ value < 16, hexDigit? (Nat.digitChar value) = some value ∧
      hexDigit? (Nat.digitChar value).toUpper = some value := by decide
  have valid : c.toNat.isValidChar := c.valid
  rw [charOfHex?, writes.foldlM_eq each]
  simp [valid]

theorem Escapes.escape?_eq {c : Char} {form : List Char} (escapes : Escapes c form)
    (rest : List Char) : escape? (form ++ rest) = some (c, form.length) := by
  cases escapes with
  | short listed =>
      simp only [shortEscapes, List.mem_cons, Prod.mk.injEq, List.not_mem_nil, or_false] at listed
      rcases listed with ⟨rfl, rfl⟩ | ⟨rfl, rfl⟩ | ⟨rfl, rfl⟩ | ⟨rfl, rfl⟩ | ⟨rfl, rfl⟩ |
        ⟨rfl, rfl⟩ | ⟨rfl, rfl⟩ <;> rfl
  | @four _ digits count writes =>
      have taken : (digits ++ rest).take 4 = digits := List.take_left' count
      rw [List.cons_append, escape?, taken, if_pos count, charOfHex?_eq_some writes,
        List.length_cons, count]
      rfl
  | @eight _ digits count writes =>
      have taken : (digits ++ rest).take 8 = digits := List.take_left' count
      rw [List.cons_append, escape?, taken, if_pos count, charOfHex?_eq_some writes,
        List.length_cons, count]
      rfl

/-- A form of a character is read as the character, in front of the rest of the text. -/
theorem SpellsChar.readBasic_eq {c : Char} {form : List Char} (spelled : SpellsChar c form)
    {rest content after : List Char} (later : readBasic rest = some (content, after)) :
    readBasic (form ++ rest) = some (c :: content, after) := by
  cases spelled with
  | plain visible noDelete noQuote noBackslash =>
      have isPlain : isPlain c = true := by
        rw [Toml.isPlain, Bool.or_eq_true, Bool.and_eq_true]
        exact visible.imp (fun same => decide_eq_true same) fun large =>
          ⟨decide_eq_true large, decide_eq_true noDelete⟩
      rw [List.singleton_append, readBasic]
      · simp [isPlain, later]
      · exact noQuote
      · exact noBackslash
  | @escaped form escapes =>
      rw [List.cons_append, readBasic, escapes.escape?_eq]
      simp [later]

theorem readBasic_forms {content : List Char} {forms : List (List Char)}
    (formed : List.Forall₂ SpellsChar content forms) (rest : List Char) :
    readBasic (forms.flatten ++ '"' :: rest) = some (content, rest) := by
  induction formed with
  | nil => rw [List.flatten_nil, List.nil_append, readBasic]
  | cons spelled _ ih =>
      rw [List.flatten_cons, List.append_assoc]
      exact spelled.readBasic_eq ih

theorem SpellsChar.exists_eq_cons {c : Char} {form : List Char} (spelled : SpellsChar c form) :
    ∃ first rest, form = first :: rest ∧ first ≠ '"' := by
  cases spelled with
  | plain visible noDelete noQuote noBackslash => exact ⟨c, [], rfl, noQuote⟩
  | escaped escapes => exact ⟨'\\', _, rfl, by decide⟩

/-- Two quotes in a row would be the closing one and the first of what follows. -/
theorem flatten_ne {content : List Char} {forms : List (List Char)}
    (formed : List.Forall₂ SpellsChar content forms) {rest : List Char}
    (ends : rest.head? ≠ some '"') (more : List Char) :
    forms.flatten ++ '"' :: rest ≠ '"' :: '"' :: more := by
  intro same
  cases formed with
  | nil =>
      obtain ⟨_, rfl⟩ := List.cons.inj same
      exact ends rfl
  | cons first _ =>
      obtain ⟨c, form, rfl, noQuote⟩ := first.exists_eq_cons
      exact noQuote (List.cons.inj same).1

/-- A text in any of its forms is read, unless a third quote follows an empty one. -/
theorem readText_quotes {value : String} {text : List Char} (spelled : Quotes SpellsChar value text)
    {rest : List Char} (ends : rest.head? ≠ some '"') :
    readText (text ++ rest) = some (value, rest) := by
  obtain ⟨forms, formed, rfl⟩ := spelled
  have one : readText ('"' :: (forms.flatten ++ '"' :: rest)) =
      readLineText ('"' :: (forms.flatten ++ '"' :: rest)) := by
    unfold readText
    split
    · rename_i more same
      exact absurd (List.cons.inj same).2 (flatten_ne formed ends more)
    · rename_i same
      cases same
    · rfl
  have shape : '"' :: (forms.flatten ++ ['"']) ++ rest = '"' :: (forms.flatten ++ '"' :: rest) := by
    simp
  rw [shape, one, readLineText, readBasic_forms formed]
  simp

end Texts

section Numbers

theorem digits?_eq_some {digits : List Char} (filled : digits ≠ [])
    (all : ∀ c ∈ digits, c.isDigit = true) : digits? Char.isDigit digits = some digits := by
  induction digits with
  | nil => exact absurd rfl filled
  | cons c rest ih =>
      obtain ⟨digit, others⟩ := List.forall_mem_cons.mp all
      cases rest with
      | nil => rw [digits?, if_pos digit]
      | cons d rest =>
          have notMark : d ≠ '_' := by
            rintro rfl
            cases others '_' List.mem_cons_self
          rw [digits?, if_pos digit, ih (List.cons_ne_nil d rest) others]
          · rfl
          · exact List.cons_ne_nil d rest
          · intro more same
            exact notMark (List.cons.inj same).1

theorem hexDigit?_of_isDigit {c : Char} (digit : c.isDigit = true) :
    hexDigit? c = some (Json.digitValue c) := by
  rw [Char.isDigit, Bool.and_eq_true, decide_eq_true_eq, decide_eq_true_eq] at digit
  exact if_pos digit

theorem valueOfDigits_eq {digits : List Char} (all : ∀ c ∈ digits, c.isDigit = true) :
    valueOfDigits 10 digits = Json.naturalValue digits := by
  apply List.foldl_ext
  intro value c member
  rw [hexDigit?_of_isDigit (all c member), Option.getD_some]

theorem wholeDigits?_toDigits (value : Nat) :
    wholeDigits? (Nat.toDigits 10 value) = some (Nat.toDigits 10 value) := by
  rw [wholeDigits?, digits?_eq_some Nat.toDigits_ne_nil fun _ => Json.isDigit_of_mem_toDigits]
  have alone : ¬ ((Nat.toDigits 10 value).head? = some '0' ∧ (Nat.toDigits 10 value).length ≠ 1) := by
    rintro ⟨zero, long⟩
    obtain ⟨rest, written⟩ := List.head?_eq_some_iff.mp zero
    rw [written, Json.eq_nil_of_toDigits_eq_zero_cons written] at long
    exact long rfl
  exact if_neg alone

def Signed64.ofNat (value : Nat) (small : value < Nat.pow 2 63) : Signed64 :=
  ⟨value, by omega, by omega⟩

theorem integer?_toDigits {value : Nat} (small : value < Nat.pow 2 63) :
    integer? (Nat.toDigits 10 value) = some (.ofNat value small) := by
  have digit {c : Char} (member : c ∈ Nat.toDigits 10 value) : c.isDigit = true :=
    Json.isDigit_of_mem_toDigits member
  have unsigned : splitSign (Nat.toDigits 10 value) = (false, Nat.toDigits 10 value) := by
    unfold splitSign
    split
    · rename_i same
      cases digit (same ▸ List.mem_cons_self)
    · rename_i same
      cases digit (same ▸ List.mem_cons_self)
    · rfl
  have fits : signed64? (value : Int) = some (.ofNat value small) :=
    dif_pos ⟨(Signed64.ofNat value small).low, (Signed64.ofNat value small).high⟩
  unfold integer?
  split
  · rename_i same
    cases digit (same ▸ List.mem_cons_of_mem _ List.mem_cons_self)
  · rename_i same
    cases digit (same ▸ List.mem_cons_of_mem _ List.mem_cons_self)
  · rename_i same
    cases digit (same ▸ List.mem_cons_of_mem _ List.mem_cons_self)
  · rw [unsigned]
    dsimp only
    rw [wholeDigits?_toDigits, Option.bind_eq_bind, Option.bind_some,
      valueOfDigits_eq fun _ => digit, Json.naturalValue_toDigits, if_neg Bool.false_ne_true]
    exact fits

/-- A whole number is read where no character of a number follows. -/
theorem readPlain_toDigits {value : Nat} (small : value < Nat.pow 2 63) {rest : List Char}
    (stops : Text.Stops isScalarChar rest) :
    readPlain (Nat.toDigits 10 value ++ rest) = some (.integer (.ofNat value small), rest) := by
  have spanned : (Nat.toDigits 10 value ++ rest).span isScalarChar =
      (Nat.toDigits 10 value, rest) := by
    refine Text.span_eq_iff.mpr ⟨rfl, fun c member => ?_, stops⟩
    have digit : c.isDigit = true := Json.isDigit_of_mem_toDigits member
    simp [isScalarChar, Char.isAlphanum, digit]
  rw [readPlain, spanned]
  dsimp only
  rw [integer?_toDigits small]

/-- What is no text, list or table is read as a number or a moment. -/
theorem readValue_of_digit {c : Char} (digit : c.isDigit = true) (depth : Nat) (rest : List Char) :
    readValue (depth + 1) (c :: rest) =
      (readPlain (c :: rest)).map fun (scalar, after) => (.scalar scalar, after) := by
  have scalar : readScalar (c :: rest) = readPlain (c :: rest) := by
    unfold readScalar
    split
    · rename_i same
      obtain ⟨rfl, _⟩ := List.cons.inj same
      cases digit
    · rename_i same
      obtain ⟨rfl, _⟩ := List.cons.inj same
      cases digit
    · rfl
  unfold readValue
  split
  · rename_i same
    obtain ⟨rfl, _⟩ := List.cons.inj same
    cases digit
  · rename_i same
    obtain ⟨rfl, _⟩ := List.cons.inj same
    cases digit
  · rw [scalar]

end Numbers

section Values

def fillers : List Char := [' ', '\t', '\n', '\r', '#']

/-- What may stand behind a value: nothing, a blank, a line break, or a mark of an array. -/
def Follows (rest : List Char) : Prop := ∀ c ∈ rest.head?, c ∈ [' ', '\t', '\n', '\r', ',', ']']

namespace Follows

variable {rest : List Char}

theorem stops (follows : Follows rest) : Text.Stops isScalarChar rest := by
  have all : [' ', '\t', '\n', '\r', ',', ']'].all fun c => !isScalarChar c := by decide
  intro c first
  simpa using List.all_eq_true.mp all c (follows c first)

theorem noQuote (follows : Follows rest) : rest.head? ≠ some '"' :=
  fun first => absurd (follows '"' first) (by decide)

/-- Blanks and whatever may stand behind a value may stand behind a value. -/
theorem gap {gap : List Char} (blank : gap ⊆ blanks) (follows : Follows rest) :
    Follows (gap ++ rest) := by
  cases gap with
  | nil => exact follows
  | cons c gap =>
      rintro _ ⟨⟩
      have listed : c ∈ [' ', '\t'] := blank List.mem_cons_self
      exact List.mem_append_left ['\n', '\r', ',', ']'] listed

end Follows

variable {α : Type} {reader : Reader Node} {spells : α → List Char → Prop}
  {stands : α → Node → Prop}

/-- A reader that reads every spelling of a value as a node that stands for it. -/
structure Reads (reader : Reader Node) (spells : α → List Char → Prop)
    (stands : α → Node → Prop) : Prop where
  opens : ∀ {value : α} {text : List Char}, spells value text →
    ∃ c rest, text = c :: rest ∧ c ∉ fillers ∧ c ≠ ']'
  reads : ∀ {value : α} {text rest : List Char}, spells value text → Follows rest →
    ∃ node, stands value node ∧ reader (text ++ rest) = some (node, rest)

def StandsForText (value : String) (node : Node) : Prop := node = .scalar (.text value)

theorem readValue_quote (depth : Nat) (rest : List Char) :
    readValue (depth + 1) ('"' :: rest) =
      ((readText ('"' :: rest)).map fun (content, after) => (Scalar.text content, after)).map
        fun (scalar, after) => (.scalar scalar, after) := rfl

theorem reads_text (depth : Nat) :
    Reads (readValue (depth + 1)) (Quotes SpellsChar) StandsForText where
  opens := by
    rintro value _ ⟨forms, _, rfl⟩
    exact ⟨'"', _, rfl, by decide, by decide⟩
  reads := by
    rintro value text rest spelled follows
    refine ⟨_, rfl, ?_⟩
    have read := readText_quotes spelled follows.noQuote
    obtain ⟨forms, formed, rfl⟩ := spelled
    rw [List.cons_append] at read ⊢
    rw [readValue_quote, read]
    rfl

def SpellsNatural (value : Nat) (text : List Char) : Prop :=
  value < Nat.pow 2 63 ∧ text = Nat.toDigits 10 value

def StandsForNatural (value : Nat) (node : Node) : Prop :=
  ∃ small : value < Nat.pow 2 63, node = .scalar (.integer (.ofNat value small))

theorem reads_natural (depth : Nat) :
    Reads (readValue (depth + 1)) SpellsNatural StandsForNatural where
  opens := by
    rintro value _ ⟨_, rfl⟩
    obtain ⟨first, more, written, digit⟩ := Json.exists_toDigits_eq_cons value
    refine ⟨first, more, written, ?_, ?_⟩
    · intro listed
      simp only [fillers, List.mem_cons, List.not_mem_nil, or_false] at listed
      rcases listed with rfl | rfl | rfl | rfl | rfl <;> cases digit
    · rintro rfl
      cases digit
  reads := by
    rintro value _ rest ⟨small, rfl⟩ follows
    refine ⟨_, ⟨small, rfl⟩, ?_⟩
    have read := readPlain_toDigits small follows.stops
    obtain ⟨first, more, written, digit⟩ := Json.exists_toDigits_eq_cons value
    rw [written, List.cons_append] at read ⊢
    rw [readValue_of_digit digit, read]
    rfl

section Gaps

theorem dropBlankLines_append {gap : List Char} (blank : gap ⊆ blanks) (text : List Char) :
    dropBlankLines (gap ++ text) = dropBlankLines text := by
  induction gap with
  | nil => rfl
  | cons c gap ih =>
      obtain ⟨listed, others⟩ := List.cons_subset.mp blank
      simp only [blanks, List.mem_cons, List.not_mem_nil, or_false] at listed
      rcases listed with rfl | rfl
      · exact ih others
      · exact ih others

theorem dropBlankLines_cons {c : Char} (visible : c ∉ fillers) (rest : List Char) :
    dropBlankLines (c :: rest) = c :: rest := by
  simp only [fillers, List.mem_cons, List.not_mem_nil, or_false, not_or] at visible
  obtain ⟨noSpace, noTab, noBreak, noReturn, _⟩ := visible
  rw [dropBlankLines]
  · exact if_neg (by simp [isSpace, noSpace, noTab, noBreak])
  · exact fun _ same _ => noReturn same

/-- Blanks are dropped up to what stands behind them. -/
theorem dropFiller_gap {gap : List Char} (blank : gap ⊆ blanks) {c : Char} (visible : c ∉ fillers)
    (rest : List Char) :
    dropFiller (gap ++ c :: rest).length (gap ++ c :: rest) = some (c :: rest) := by
  have long : (gap ++ c :: rest).length = (gap.length + rest.length) + 1 := by
    simp [Nat.add_assoc]
  rw [long, dropFiller, dropBlankLines_append blank, dropBlankLines_cons visible]
  split
  · rename_i same
    obtain ⟨rfl, _⟩ := List.cons.inj same
    exact absurd visible (by decide)
  · rfl

end Gaps

def StandsForList (stands : α → Node → Prop) (values : List α) (node : Node) : Prop :=
  ∃ nodes, List.Forall₂ stands values nodes ∧ node = .array nodes

section Lists

variable (reads : Reads reader spells stands)

include reads

theorem Reads.between {value : α} {front text back : List Char} (before : front ⊆ blanks)
    (spelled : spells value text) (behind : back ⊆ blanks) {mark : Char} (ends : mark ∈ [',', ']'])
    (rest : List Char) :
    ∃ start node, dropFiller (front ++ text ++ back ++ mark :: rest).length
        (front ++ text ++ back ++ mark :: rest) = some start ∧ start.head? ≠ some ']' ∧
      stands value node ∧ reader start = some (node, back ++ mark :: rest) := by
  obtain ⟨c, more, rfl, visible, other⟩ := reads.opens spelled
  have follows : Follows (back ++ mark :: rest) := by
    apply Follows.gap behind
    rintro _ ⟨⟩
    exact List.mem_append_right [' ', '\t', '\n', '\r'] ends
  obtain ⟨node, stood, read⟩ := reads.reads spelled follows
  have dropped := dropFiller_gap before visible (more ++ (back ++ mark :: rest))
  rw [List.cons_append] at read
  refine ⟨c :: (more ++ (back ++ mark :: rest)), node, ?_, ?_, stood, read⟩
  · simpa using dropped
  · exact fun first => other (Option.some.inj first)

theorem readItems_separated {values : List α} {body : List Char}
    (separated : Separated blanks spells values body) {rounds : Nat}
    (enough : values.length ≤ rounds) (rest : List Char) :
    ∃ nodes, List.Forall₂ stands values nodes ∧
      readItems reader rounds (body ++ ']' :: rest) = some (nodes, rest) := by
  induction separated generalizing rounds with
  | last before spelled behind =>
      obtain ⟨rounds, rfl⟩ := Nat.exists_eq_add_one_of_ne_zero (Nat.ne_zero_of_lt enough)
      obtain ⟨start, node, dropped, opens, stood, read⟩ :=
        reads.between before spelled behind (List.mem_cons_of_mem _ List.mem_cons_self) rest
      refine ⟨[node], .cons stood .nil, ?_⟩
      rw [readItems, dropped, Option.bind_eq_bind, Option.bind_some]
      split
      · exact absurd rfl opens
      · rw [read, Option.bind_eq_bind, Option.bind_some]
        dsimp only
        rw [dropFiller_gap behind (by decide)]
        rfl
  | @more item items front text back later before spelled behind separated ih =>
      obtain ⟨rounds, rfl⟩ := Nat.exists_eq_add_one_of_ne_zero (Nat.ne_zero_of_lt enough)
      obtain ⟨start, node, dropped, opens, stood, read⟩ :=
        reads.between before spelled behind List.mem_cons_self (later ++ ']' :: rest)
      obtain ⟨nodes, others, readLater⟩ := ih (Nat.le_of_succ_le_succ enough)
      refine ⟨node :: nodes, .cons stood others, ?_⟩
      rw [List.append_assoc, List.cons_append, readItems, dropped, Option.bind_eq_bind,
        Option.bind_some]
      split
      · exact absurd rfl opens
      · rw [read, Option.bind_eq_bind, Option.bind_some]
        dsimp only
        rw [dropFiller_gap behind (by decide), Option.bind_some]
        simp only [readLater]
        rfl

end Lists

theorem readValue_open (depth : Nat) (text : List Char) :
    readValue (depth + 2) ('[' :: text) =
      (readItems (readValue (depth + 1)) (text.length + 1) text).bind fun (nodes, after) =>
        some (.array nodes, after) := rfl

/-- Arrays are read with any blanks between their items. -/
theorem Reads.list {depth : Nat} (reads : Reads (readValue (depth + 1)) spells stands) :
    Reads (readValue (depth + 2)) (Enclosed blanks '[' ']' spells) (StandsForList stands) where
  opens := by
    rintro values _ (blank | separated)
    · exact ⟨'[', _, rfl, by decide, by decide⟩
    · exact ⟨'[', _, rfl, by decide, by decide⟩
  reads := by
    rintro values _ rest (⟨blank⟩ | @⟨_, body, separated⟩) _
    · refine ⟨_, ⟨[], .nil, rfl⟩, ?_⟩
      rw [List.cons_append, List.append_assoc, List.singleton_append, readValue_open, readItems,
        dropFiller_gap blank (by decide)]
      rfl
    · have opens {value : α} {text : List Char} (spelled : spells value text) :
          ∃ c rest, text = c :: rest ∧ c ∉ blanks ∧ c ≠ ']' := by
        obtain ⟨c, more, same, visible, other⟩ := reads.opens spelled
        exact ⟨c, more, same, fun blank => visible (List.mem_append_left _ blank), other⟩
      obtain ⟨gap, c, more, same, _, _, _, shorter⟩ := separated.begins opens
      have enough : values.length ≤ (body ++ ']' :: rest).length + 1 := by
        rw [same]
        simp only [List.length_append, List.length_cons]
        omega
      obtain ⟨nodes, stood, read⟩ := readItems_separated reads separated enough rest
      refine ⟨_, ⟨nodes, stood, rfl⟩, ?_⟩
      rw [List.cons_append, List.append_assoc, List.singleton_append, readValue_open, read]
      rfl

end Values

section Written

/-- A form of each character: quotation marks, backslashes and controls are escaped. -/
def escaped (c : Char) : List Char :=
  if c = '"' ∨ c = '\\' then ['\\', c]
  else if ' ' ≤ c ∧ c ≠ '\x7f' then [c]
  else '\\' :: 'u' :: hexDigits c.toNat 4

theorem spellsChar_escaped (c : Char) : SpellsChar c (escaped c) := by
  rw [escaped]
  split
  · rename_i mark
    rcases mark with rfl | rfl <;> exact .escaped (.short (by decide))
  · rename_i noMark
    obtain ⟨noQuote, noBackslash⟩ := not_or.mp noMark
    split
    · rename_i visible
      exact .plain (.inr visible.1) visible.2 noQuote noBackslash
    · rename_i control
      have small : c.toNat < Nat.pow 16 4 := by
        rcases not_and_or.mp control with below | delete
        · exact Nat.lt_trans (Char.not_le.mp below) (by decide)
        · rw [not_not.mp delete]
          decide
      exact .escaped (.four (length_hexDigits _ 4) (writesHex_hexDigits small))

def quoted (value : String) : List Char := '"' :: (value.toList.flatMap escaped ++ ['"'])

def quotedTexts (values : List String) : List Char :=
  '[' :: ([',', ' '].intercalate (values.map quoted) ++ [']'])

theorem enclosed_quotedTexts (values : List String) :
    Enclosed blanks '[' ']' (Quotes SpellsChar) values (quotedTexts values) :=
  enclosed_intercalate (by decide) '[' ']' fun value _ => quotes_flatMap spellsChar_escaped value

end Written

end TestImpact.Toml
