import TestImpact.Proofs.Json.Record
import TestImpact.Proofs.Text.Spelling

/-!
# JSON in any spelling

A JSON text may have blanks between its tokens and any escapes in its texts, and a record
may have its members in any order. However values are spelled, they are read as what they
are.
-/

namespace TestImpact.Json

open Text (Enclosed enclosed_intercalate hexDigits Quotes quotes_flatMap Separated WritesHex
  writesHex_hexDigits)

def blanks : List Char := [' ', '\n', '\t', '\r']

def shortEscapes : List (Char × Char) :=
  [('"', '"'), ('\\', '\\'), ('/', '/'), ('b', '\x08'), ('f', '\x0c'), ('n', '\n'), ('r', '\r'),
    ('t', '\t')]

def leadingHalf (c : Char) : Nat := 0xD800 + (c.toNat - 0x10000) / 0x400

def trailingHalf (c : Char) : Nat := 0xDC00 + (c.toNat - 0x10000) % 0x400

/-- The forms of a character between quotation marks. -/
inductive SpellsChar : Char → List Char → Prop
  | plain {c : Char} (visible : ' ' ≤ c) (noQuote : c ≠ '"') (noBackslash : c ≠ '\\') :
      SpellsChar c [c]
  | short {letter c : Char} (listed : (letter, c) ∈ shortEscapes) : SpellsChar c ['\\', letter]
  | unit {c : Char} {digits : List Char} (four : digits.length = 4)
      (writes : WritesHex c.toNat digits) : SpellsChar c ('\\' :: 'u' :: digits)
  | pair {c : Char} {leading trailing : List Char} (large : 0x10000 ≤ c.toNat)
      (four : leading.length = 4) (first : WritesHex (leadingHalf c) leading)
      (fourMore : trailing.length = 4) (second : WritesHex (trailingHalf c) trailing) :
      SpellsChar c ('\\' :: 'u' :: (leading ++ '\\' :: 'u' :: trailing))

section Characters

/-- Four digits are read as the unit that they write. -/
theorem pieces_unit {value : Nat} {digits : List Char} (four : digits.length = 4)
    (writes : WritesHex value digits) (rest : List Char) :
    pieces ('\\' :: 'u' :: (digits ++ rest)) = (.unit value :: (pieces rest).1, (pieces rest).2) := by
  have each : ∀ value < 16, hexValue? (Nat.digitChar value) = some value ∧
      hexValue? (Nat.digitChar value).toUpper = some value := by decide
  match digits, four with
  | [a, b, c, d], _ =>
      have read : unit? a b c d = some value := by
        rw [← writes.foldlM_eq each]
        simp [unit?, Option.map_eq_bind, Option.bind_assoc]
      simp only [List.cons_append, List.nil_append, pieces, read]

theorem isHalf_toNat_eq_false (c : Char) : isTrailing c.toNat = false ∧ isLeading c.toNat = false := by
  have apart : c.toNat < 0xD800 ∨ 0xDFFF < c.toNat := c.valid.imp id And.left
  simp only [isTrailing, isLeading, Bool.and_eq_false_iff, decide_eq_false_iff_not]
  omega

/-- The two halves for a character beyond 16 bits make up a pair that stands for it. -/
theorem halves_of_large {c : Char} (large : 0x10000 ≤ c.toNat) :
    isTrailing (leadingHalf c) = false ∧ isLeading (leadingHalf c) = true ∧
      isTrailing (trailingHalf c) = true ∧ pairValue (leadingHalf c) (trailingHalf c) = c := by
  have bound : c.toNat < 0x110000 := by
    rcases c.valid with low | ⟨_, high⟩
    · exact Nat.lt_trans low (by decide)
    · exact high
  have same : (leadingHalf c - 0xD800) * 0x400 + (trailingHalf c - 0xDC00) + 0x10000 = c.toNat := by
    rw [leadingHalf, trailingHalf]
    omega
  have leadingBounds : 0xD800 ≤ leadingHalf c ∧ leadingHalf c < 0xDC00 := by
    rw [leadingHalf]
    omega
  have trailingBounds : 0xDC00 ≤ trailingHalf c ∧ trailingHalf c < 0xE000 := by
    rw [trailingHalf]
    omega
  refine ⟨?_, ?_, ?_, by rw [pairValue, same, Char.ofNat_toNat]⟩
  · simp only [isTrailing, Bool.and_eq_false_iff, decide_eq_false_iff_not]
    omega
  · simp only [isLeading, Bool.and_eq_true, decide_eq_true_eq]
    omega
  · simp only [isTrailing, Bool.and_eq_true, decide_eq_true_eq]
    omega

/-- A form of a character is cut into pieces that are put together as the character. -/
theorem SpellsChar.exists_pieces {c : Char} {form : List Char} (spells : SpellsChar c form) :
    ∃ parts, (∀ rest, pieces (form ++ rest) = (parts ++ (pieces rest).1, (pieces rest).2)) ∧
      ∀ ending later, assemble ending (parts ++ later) =
        (assemble ending later).map fun (text, rest) => (c :: text, rest) := by
  cases spells with
  | plain visible noQuote noBackslash =>
      have printable : ¬ c < ' ' := Char.not_lt.mpr visible
      exact ⟨[.char c], fun rest => by simp [pieces, printable, noBackslash], fun _ _ => rfl⟩
  | short listed =>
      refine ⟨[.char c], fun rest => ?_, fun _ _ => rfl⟩
      simp only [shortEscapes, List.mem_cons, Prod.mk.injEq, List.not_mem_nil, or_false] at listed
      rcases listed with ⟨rfl, rfl⟩ | ⟨rfl, rfl⟩ | ⟨rfl, rfl⟩ | ⟨rfl, rfl⟩ | ⟨rfl, rfl⟩ |
        ⟨rfl, rfl⟩ | ⟨rfl, rfl⟩ | ⟨rfl, rfl⟩ <;> rfl
  | unit four writes =>
      refine ⟨[.unit c.toNat], fun rest => pieces_unit four writes rest, fun ending later => ?_⟩
      obtain ⟨notTrailing, notLeading⟩ := isHalf_toNat_eq_false c
      rw [List.singleton_append, assemble.eq_def]
      dsimp only
      rw [if_neg (Bool.eq_false_iff.mp notTrailing), if_neg (Bool.eq_false_iff.mp notLeading),
        Char.ofNat_toNat]
  | pair large four first fourMore second =>
      refine ⟨[.unit (leadingHalf c), .unit (trailingHalf c)], fun rest => ?_, fun ending later => ?_⟩
      · rw [List.cons_append, List.cons_append, List.append_assoc, List.cons_append,
          List.cons_append, pieces_unit four first, pieces_unit fourMore second]
        rfl
      · obtain ⟨notTrailing, leads, trails, paired⟩ := halves_of_large large
        simp [assemble, notTrailing, leads, trails, paired]

theorem exists_pieces_of_forms {content : List Char} {forms : List (List Char)}
    (formed : List.Forall₂ SpellsChar content forms) :
    ∃ parts, (∀ rest, pieces (forms.flatten ++ '"' :: rest) = (parts, .ok rest)) ∧
      ∀ rest, assemble (.ok rest) parts = .ok (content, rest) := by
  induction formed with
  | nil => exact ⟨[], fun _ => rfl, fun _ => rfl⟩
  | cons spelled _ ih =>
      obtain ⟨parts, cut, assembled⟩ := spelled.exists_pieces
      obtain ⟨later, cutLater, assembledLater⟩ := ih
      refine ⟨parts ++ later, fun rest => ?_, fun rest => ?_⟩
      · rw [List.flatten_cons, List.append_assoc, cut, cutLater]
      · rw [assembled, assembledLater]
        rfl

/-- A text in any of its forms is read behind its opening mark. -/
theorem readQuoted_forms {value : String} {forms : List (List Char)}
    (formed : List.Forall₂ SpellsChar value.toList forms) (rest : List Char) :
    readQuoted (forms.flatten ++ '"' :: rest) = .ok (value, rest) := by
  obtain ⟨parts, cut, assembled⟩ := exists_pieces_of_forms formed
  rw [readQuoted, cut]
  dsimp only
  rw [assembled, Except.map, String.ofList_toList]

end Characters

theorem isBlank_iff {c : Char} : isBlank c = true ↔ c ∈ blanks := by
  simp [isBlank, blanks, or_assoc]

theorem dropBlank_append {gap : List Char} (blank : gap ⊆ blanks) (text : List Char) :
    dropBlank (gap ++ text) = dropBlank text :=
  List.dropWhile_append_of_pos fun _ member => isBlank_iff.mpr (blank member)

theorem dropBlank_of_notMem {c : Char} (visible : c ∉ blanks) (rest : List Char) :
    dropBlank (c :: rest) = c :: rest :=
  dropBlank_cons (Bool.eq_false_iff.mpr (mt isBlank_iff.mp visible)) rest

/-- What may stand behind a value: nothing, a blank, or a mark that ends values. -/
def Follows (rest : List Char) : Prop := ∀ c ∈ rest.head?, c ∈ blanks ∨ c ∈ [',', ']', '\x7d']

namespace Follows

theorem endsNumeral {rest : List Char} (follows : Follows rest) : EndsNumeral rest := by
  intro c first
  have listed := follows c first
  simp only [blanks, List.mem_cons, List.not_mem_nil, or_false] at listed
  rcases listed with (rfl | rfl | rfl | rfl) | rfl | rfl | rfl <;> decide

/-- Blanks and a mark that ends values may stand behind a value. -/
theorem gap_mark {gap : List Char} (blank : gap ⊆ blanks) {mark : Char}
    (ends : mark ∈ [',', ']', '\x7d']) (rest : List Char) : Follows (gap ++ mark :: rest) := by
  cases gap with
  | nil =>
      rintro _ ⟨⟩
      exact .inr ends
  | cons c gap =>
      rintro _ ⟨⟩
      exact .inl (blank List.mem_cons_self)

end Follows

variable {α : Type} {reader : Reader α} {spells : α → List Char → Prop}

/-- A reader that reads every spelling of a value, with blanks in front of it. -/
structure Reads (reader : Reader α) (spells : α → List Char → Prop) : Prop where
  /-- A spelling begins with no blank and closes no list. -/
  opens : ∀ {value : α} {text : List Char}, spells value text →
    ∃ c rest, text = c :: rest ∧ c ∉ blanks ∧ c ≠ ']'
  skips : ∀ {gap : List Char} (text : List Char), gap ⊆ blanks → reader (gap ++ text) = reader text
  reads : ∀ {value : α} {text rest : List Char}, spells value text → Follows rest →
    reader (text ++ rest) = .ok (value, rest)

theorem reads_readText : Reads readText (Quotes SpellsChar) where
  opens := by
    rintro value _ ⟨forms, _, rfl⟩
    exact ⟨'"', _, rfl, by decide, by decide⟩
  skips text blank := by rw [readText, readText, dropBlank_append blank]
  reads := by
    rintro value _ rest ⟨forms, formed, rfl⟩ _
    rw [List.cons_append, List.append_assoc, List.singleton_append]
    exact readQuoted_forms formed rest

def SpellsNatural (value : Nat) (text : List Char) : Prop :=
  value < Nat.pow 2 64 ∧ text = Nat.toDigits 10 value

theorem reads_readNatural : Reads readNatural SpellsNatural where
  opens := by
    rintro value _ ⟨_, rfl⟩
    obtain ⟨first, more, written, digit⟩ := exists_toDigits_eq_cons value
    refine ⟨first, more, written, ?_, ?_⟩
    · rw [← isBlank_iff, isBlank_of_isDigit digit]
      decide
    · rintro rfl
      cases digit
  skips text blank := by
    rw [readNatural, readNatural, readQuantity, readQuantity, dropBlank_append blank]
  reads := by
    rintro value _ rest ⟨small, rfl⟩ follows
    exact readNatural_toDigits small follows.endsNumeral

section Lists

variable (reads : Reads reader spells)

include reads

theorem Reads.between {value : α} {front text back : List Char} (before : front ⊆ blanks)
    (spelled : spells value text) (behind : back ⊆ blanks) {mark : Char}
    (ends : mark ∈ [',', ']', '\x7d']) (rest : List Char) :
    reader (front ++ text ++ back ++ mark :: rest) = .ok (value, back ++ mark :: rest) := by
  rw [List.append_assoc, List.append_assoc, reads.skips _ before]
  exact reads.reads spelled (.gap_mark behind ends rest)

omit reads in
theorem dropBlank_gap_mark {gap : List Char} (blank : gap ⊆ blanks) {mark : Char}
    (visible : mark ∉ blanks) (rest : List Char) : dropBlank (gap ++ mark :: rest) = mark :: rest := by
  rw [dropBlank_append blank, dropBlank_of_notMem visible]

theorem readItems_skips {gap : List Char} (blank : gap ⊆ blanks) (rounds : Nat) (text : List Char) :
    readItems reader rounds (gap ++ text) = readItems reader rounds text := by
  cases rounds with
  | zero => rfl
  | succ rounds => rw [readItems, readItems, reads.skips text blank]

theorem readItems_separated {items : List α} {body : List Char}
    (separated : Separated blanks spells items body) {rounds : Nat}
    (enough : items.length ≤ rounds) (rest : List Char) :
    readItems reader rounds (body ++ ']' :: rest) = .ok (items, rest) := by
  induction separated generalizing rounds with
  | last before spelled behind =>
      obtain ⟨rounds, rfl⟩ := Nat.exists_eq_add_one_of_ne_zero (Nat.ne_zero_of_lt enough)
      rw [readItems, reads.between before spelled behind (by decide)]
      dsimp only [bind, Except.bind]
      rw [dropBlank_gap_mark behind (by decide)]
      rfl
  | @more item items front text back later before spelled behind separated ih =>
      obtain ⟨rounds, rfl⟩ := Nat.exists_eq_add_one_of_ne_zero (Nat.ne_zero_of_lt enough)
      rw [readItems, List.append_assoc, List.cons_append,
        reads.between before spelled behind (by decide)]
      dsimp only [bind, Except.bind]
      rw [dropBlank_gap_mark behind (by decide)]
      simp only [ih (Nat.le_of_succ_le_succ enough)]

/-- Lists are read with any blanks between their items. -/
theorem Reads.list : Reads (readList reader) (Enclosed blanks '[' ']' spells) where
  opens := by
    rintro items _ (blank | separated)
    · exact ⟨'[', _, rfl, by decide, by decide⟩
    · exact ⟨'[', _, rfl, by decide, by decide⟩
  skips text blank := by rw [readList, readList, dropBlank_append blank]
  reads := by
    rintro items _ rest (⟨blank⟩ | ⟨separated⟩) _
    · rw [List.cons_append, List.append_assoc, List.singleton_append, readList_open,
        dropBlank_gap_mark blank (by decide)]
      rfl
    · obtain ⟨gap, c, more, rfl, blank, visible, other, shorter⟩ := separated.begins reads.opens
      have enough : items.length ≤ (c :: (more ++ ']' :: rest)).length := by
        rw [List.length_cons, List.length_append]
        omega
      have read := readItems_separated reads separated enough rest
      rw [List.append_assoc, List.cons_append] at read
      rw [List.cons_append, List.append_assoc, List.append_assoc, List.singleton_append,
        List.cons_append, readList_open, dropBlank_append blank, dropBlank_of_notMem visible]
      split
      · rename_i same
        exact absurd (List.cons.inj same).1 other
      · rwa [readItems_skips reads blank] at read

end Lists

section Records

variable {ρ ι : Type} {fields : List (Field ρ)} {name : ι → String} {put : ι → ρ → ρ}
  {valueOf : ι → List Char → Prop}

def SpellsMember (name : ι → String) (valueOf : ι → List Char → Prop) (item : ι)
    (text : List Char) : Prop :=
  ∃ quoted before behind value, Quotes SpellsChar (name item) quoted ∧ before ⊆ blanks ∧
    behind ⊆ blanks ∧ valueOf item value ∧ text = quoted ++ before ++ ':' :: (behind ++ value)

def Field.Takes (field : Field ρ) (spells : List Char → Prop) (put : ρ → ρ) : Prop :=
  ∀ whole gap text rest, gap ⊆ blanks → spells text → Follows rest →
    field.read whole (gap ++ text ++ rest) = .ok (put whole, rest)

theorem Reads.takes_defaulted {codec : Codec α} (reads : Reads codec.read spells) {key : String}
    {get : ρ → α} {set : α → ρ → ρ} (value : α) :
    (Field.defaulted key codec get set).Takes (spells value) (set value) := by
  intro whole gap text rest blank spelled follows
  change (codec.read (gap ++ text ++ rest)).map _ = _
  rw [List.append_assoc, reads.skips _ blank, reads.reads spelled follows]
  rfl

/-- Fields that may be missing, among which every item has one that takes in its value in
any spelling. -/
structure TakesIn (fields : List (Field ρ)) (name : ι → String)
    (valueOf : ι → List Char → Prop) (put : ι → ρ → ρ) : Prop where
  optional : ∀ field ∈ fields, field.isRequired = false
  finds : ∀ item, ∃ field, fields.find? (·.name = name item) = some field ∧
    field.Takes (valueOf item) (put item)

variable (takes : TakesIn fields name valueOf put)

include takes

theorem TakesIn.complete (given : List String) : complete fields given = true := by
  rw [Json.complete, List.all_eq_true]
  intro field member
  rw [takes.optional field member]
  rfl

omit takes in
theorem readMember_skips {gap : List Char} (blank : gap ⊆ blanks) (whole : ρ) (given : List String)
    (text : List Char) :
    readMember fields whole given (gap ++ text) = readMember fields whole given text := by
  rw [readMember, readMember, dropBlank_append blank]

/-- A member is read into the record, and its name counts as given. -/
theorem readMember_spelled {item : ι} {text : List Char}
    (spelled : SpellsMember name valueOf item text) {front : List Char} (before : front ⊆ blanks)
    {given : List String} (fresh : name item ∉ given) (whole : ρ) {rest : List Char}
    (follows : Follows rest) :
    readMember fields whole given (front ++ text ++ rest) =
      .ok ((put item whole, name item :: given), rest) := by
  obtain ⟨_, gap, behind, value, ⟨forms, formed, rfl⟩, beforeColon, behindColon, valued, rfl⟩ :=
    spelled
  obtain ⟨field, found, taken⟩ := takes.finds item
  have colonRead : colon (gap ++ ':' :: (behind ++ value ++ rest)) = .ok (behind ++ value ++ rest) := by
    rw [colon, dropBlank_gap_mark beforeColon (by decide)]
    rfl
  have shape : front ++ ('"' :: (forms.flatten ++ ['"']) ++ gap ++ ':' :: (behind ++ value)) ++ rest =
      front ++ '"' :: (forms.flatten ++ '"' :: (gap ++ ':' :: (behind ++ value ++ rest))) := by
    simp
  rw [shape, readMember_skips before, readMember_open, readQuoted_forms formed]
  dsimp only [bind, Except.bind]
  rw [found]
  dsimp only
  rw [if_neg fresh, colonRead]
  dsimp only
  rw [taken whole behind value rest behindColon valued follows]

omit takes in
theorem readMembers_skips {gap : List Char} (blank : gap ⊆ blanks) (rounds : Nat) (whole : ρ)
    (given : List String) (text : List Char) :
    readMembers fields rounds whole given (gap ++ text) =
      readMembers fields rounds whole given text := by
  cases rounds with
  | zero => rfl
  | succ rounds => rw [readMembers, readMembers, readMember_skips blank]

/-- Members in any order are read into the record one after the other. -/
theorem readMembers_separated {items : List ι} {body : List Char}
    (separated : Separated blanks (SpellsMember name valueOf) items body)
    (distinct : (items.map name).Nodup) {given : List String}
    (fresh : ∀ item ∈ items, name item ∉ given) {rounds : Nat} (enough : items.length ≤ rounds)
    (whole : ρ) (rest : List Char) :
    readMembers fields rounds whole given (body ++ '\x7d' :: rest) =
      .ok (items.foldl (fun whole item => put item whole) whole, rest) := by
  induction separated generalizing rounds whole given with
  | @last item front text back before spelled behind =>
      obtain ⟨rounds, rfl⟩ := Nat.exists_eq_add_one_of_ne_zero (Nat.ne_zero_of_lt enough)
      have read := readMember_spelled takes spelled before (fresh item List.mem_cons_self) whole
        (Follows.gap_mark behind (by decide) rest : Follows (back ++ '\x7d' :: rest))
      rw [readMembers, List.append_assoc, read]
      dsimp only [bind, Except.bind]
      rw [dropBlank_gap_mark behind (by decide)]
      exact if_pos (takes.complete _)
  | @more item items front text back later before spelled behind separated ih =>
      obtain ⟨rounds, rfl⟩ := Nat.exists_eq_add_one_of_ne_zero (Nat.ne_zero_of_lt enough)
      obtain ⟨new, distinctLater⟩ := List.nodup_cons.mp distinct
      obtain ⟨freshFirst, freshLater⟩ := List.forall_mem_cons.mp fresh
      have freshNow : ∀ other ∈ items, name other ∉ name item :: given := by
        intro other member
        have apart : name other ≠ name item := fun same =>
          new (List.mem_map.mpr ⟨other, member, same⟩)
        exact List.not_mem_cons_of_ne_of_not_mem apart (freshLater other member)
      have read := readMember_spelled takes spelled before freshFirst whole
        (Follows.gap_mark behind (by decide) (later ++ '\x7d' :: rest) :
          Follows (back ++ ',' :: (later ++ '\x7d' :: rest)))
      rw [readMembers, List.append_assoc, List.append_assoc, List.cons_append, read]
      dsimp only [bind, Except.bind]
      rw [dropBlank_gap_mark behind (by decide)]
      exact ih distinctLater freshNow (Nat.le_of_succ_le_succ enough) (put item whole)

def SpellsRecord (name : ι → String) (valueOf : ι → List Char → Prop) (items : List ι)
    (text : List Char) : Prop :=
  ∃ front body back, front ⊆ blanks ∧ back ⊆ blanks ∧
    Enclosed blanks '\x7b' '\x7d' (SpellsMember name valueOf) items body ∧
    text = front ++ body ++ back

theorem readRecord_enclosed {items : List ι} {body : List Char}
    (enclosed : Enclosed blanks '\x7b' '\x7d' (SpellsMember name valueOf) items body)
    (distinct : (items.map name).Nodup) (start : ρ) (rest : List Char) :
    readRecord fields start (body ++ rest) =
      .ok (items.foldl (fun whole item => put item whole) start, rest) := by
  cases enclosed with
  | none blank =>
      rw [List.cons_append, List.append_assoc, List.singleton_append, readRecord_open,
        dropBlank_gap_mark blank (by decide)]
      exact if_pos (takes.complete [])
  | some separated =>
      have opens {item : ι} {text : List Char} (spelled : SpellsMember name valueOf item text) :
          ∃ c rest, text = c :: rest ∧ c ∉ blanks ∧ c ≠ '\x7d' := by
        obtain ⟨_, _, _, _, ⟨_, _, rfl⟩, _, _, _, rfl⟩ := spelled
        exact ⟨'"', _, rfl, by decide, by decide⟩
      obtain ⟨gap, c, more, rfl, blank, visible, other, shorter⟩ := separated.begins opens
      have enough : items.length ≤ (c :: (more ++ '\x7d' :: rest)).length := by
        rw [List.length_cons, List.length_append]
        omega
      have read := readMembers_separated takes separated distinct (fun _ _ => List.not_mem_nil)
        enough start rest
      rw [List.append_assoc, List.cons_append] at read
      rw [List.cons_append, List.append_assoc, List.append_assoc, List.singleton_append,
        List.cons_append, readRecord_open, dropBlank_append blank, dropBlank_of_notMem visible]
      split
      · rename_i same
        exact absurd (List.cons.inj same).1 other
      · rwa [readMembers_skips blank] at read

/-- However a record is spelled, its members are put into the defaults. -/
theorem decode_spelled {items : List ι} {text : String}
    (spelled : SpellsRecord name valueOf items text.toList) (distinct : (items.map name).Nodup)
    (start : ρ) :
    (recordCodec fields start).decode text =
      .ok (items.foldl (fun whole item => put item whole) start) := by
  obtain ⟨front, body, back, before, behind, enclosed, same⟩ := spelled
  have skipped : readRecord fields start (front ++ (body ++ back)) =
      readRecord fields start (body ++ back) := by
    rw [readRecord, readRecord, dropBlank_append before]
  have ended : dropBlank back = [] := by
    have all := dropBlank_append behind []
    rwa [List.append_nil] at all
  rw [Codec.decode, readDocument, same, List.append_assoc]
  change (readRecord fields start (front ++ (body ++ back)) >>= _) = _
  rw [skipped, readRecord_enclosed takes enclosed distinct start back]
  dsimp only [bind, Except.bind]
  rw [ended]
  rfl

omit takes in
/-- A text that opens neither a record nor a list is refused. -/
theorem decode_eq_error {text : String}
    (opens : ∀ c ∈ (dropBlank text.toList).head?, c ≠ '\x7b' ∧ c ≠ '[') (start : ρ) :
    (recordCodec fields start).decode text = .error (mismatchAt (dropBlank text.toList)) := by
  have refused : readRecord fields start text.toList =
      .error (mismatchAt (dropBlank text.toList)) := by
    rw [readRecord]
    split
    · rename_i same
      exact absurd rfl (opens _ (by rw [same]; rfl)).1
    · rename_i same
      exact absurd rfl (opens _ (by rw [same]; rfl)).2
    · rfl
  rw [Codec.decode, readDocument]
  change (readRecord fields start text.toList >>= _) = _
  rw [refused]
  rfl

end Records

section Written

theorem spellsChar_escaped (c : Char) : SpellsChar c (escaped c) := by
  by_cases short : c ∈ ['"', '\\', '\x08', '\x0c', '\n', '\r', '\t']
  · simp only [List.mem_cons, List.not_mem_nil, or_false] at short
    rcases short with rfl | rfl | rfl | rfl | rfl | rfl | rfl <;> exact .short (by decide)
  · simp only [List.mem_cons, List.not_mem_nil, or_false, not_or] at short
    obtain ⟨quote, backslash, back, feed, line, carriage, tab⟩ := short
    simp only [escaped, quote, backslash, back, feed, line, carriage, tab, if_false]
    split
    · rename_i control
      have digits : ∀ code < 32,
          hexDigits code 4 = ['0', '0', hexDigit (code / 16), hexDigit (code % 16)] := by decide
      have small : c.toNat < Nat.pow 16 4 := Nat.lt_trans control (by decide)
      have writes := writesHex_hexDigits small
      rw [digits _ control] at writes
      exact .unit rfl writes
    · rename_i large
      exact .plain (Char.not_lt.mp fun below => large below) quote backslash

/-- What is written for a text spells it. -/
theorem quotes_quoted (value : String) : Quotes SpellsChar value (quoted value) :=
  quotes_flatMap spellsChar_escaped value

theorem compactItems_eq (items : List Json) :
    compactItems items = [','].intercalate (items.map compact) := by
  induction items with
  | nil => rfl
  | cons item items ih =>
      cases items with
      | nil => simp [compactItems]
      | cons next items => simp [compactItems, ih]

theorem compactMembers_eq (members : List (String × Json)) :
    compactMembers members =
      [','].intercalate (members.map fun member => quoted member.1 ++ ':' :: member.2.compact) := by
  induction members with
  | nil => rfl
  | cons member members ih =>
      cases members with
      | nil => simp [compactMembers]
      | cons next members => simp [compactMembers, ih]

/-- What is written for a list of texts spells it. -/
theorem enclosed_texts (values : List String) :
    Enclosed blanks '[' ']' (Quotes SpellsChar) values (texts values).compact := by
  have listed : Enclosed blanks '[' ']' (Quotes SpellsChar) values
      ('[' :: ([','].intercalate (values.map quoted) ++ [']'])) :=
    enclosed_intercalate (List.nil_subset blanks) '[' ']' fun value _ => quotes_quoted value
  rw [texts, compact, compactItems_eq, List.map_map]
  exact listed

variable {ι : Type} {name : ι → String} {valueOf : ι → List Char → Prop}

/-- What is written for a record spells its members in their order. -/
theorem spellsRecord_compact {items : List ι} {value : ι → Json}
    (each : ∀ item ∈ items, valueOf item (value item).compact) :
    SpellsRecord name valueOf items
      (compact (.object (items.map fun item => (name item, value item)))) := by
  have member : ∀ item ∈ items, SpellsMember name valueOf item
      (quoted (name item) ++ ':' :: (value item).compact) := by
    intro item among
    exact ⟨quoted (name item), [], [], (value item).compact, quotes_quoted (name item),
      List.nil_subset blanks, List.nil_subset blanks, each item among, by simp⟩
  refine ⟨[], _, [], List.nil_subset blanks, List.nil_subset blanks,
    enclosed_intercalate (List.nil_subset blanks) '\x7b' '\x7d' member, ?_⟩
  rw [compact, compactMembers_eq, List.map_map]
  simp [Function.comp_def]

end Written

end TestImpact.Json
