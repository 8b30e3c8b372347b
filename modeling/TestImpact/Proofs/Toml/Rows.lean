import TestImpact.Listing.Dictionary
import TestImpact.Proofs.Toml.Spelling

/-!
# Documents of one line for each key

A document without headers whose lines hold a bare key and a value each is read as its keys
with their values, in the order of its lines, if no key stands twice.
-/

namespace TestImpact.Toml

variable {ι : Type} {name : ι → String} {valueOf : ι → List Char → Prop} {stands : ι → Node → Prop}

def SpellsRow (name : ι → String) (valueOf : ι → List Char → Prop) (item : ι)
    (line : List Char) : Prop :=
  ∃ front before behind value back, front ⊆ blanks ∧ before ⊆ blanks ∧ behind ⊆ blanks ∧
    back ⊆ blanks ∧ valueOf item value ∧
    line = front ++ (name item).toList ++ before ++ '=' :: (behind ++ value ++ back)

/-- Lines with line breaks between them, and perhaps behind the last one. -/
inductive SpellsRows (name : ι → String) (valueOf : ι → List Char → Prop) :
    List ι → List Char → Prop
  | none : SpellsRows name valueOf [] []
  | last {item : ι} {line : List Char} (row : SpellsRow name valueOf item line) :
      SpellsRows name valueOf [item] line
  | more {item : ι} {items : List ι} {line ending rest : List Char}
      (row : SpellsRow name valueOf item line) (breaks : ending ∈ [['\n'], ['\r', '\n']])
      (later : SpellsRows name valueOf items rest) :
      SpellsRows name valueOf (item :: items) (line ++ ending ++ rest)

def IsBare (key : List Char) : Prop := key ≠ [] ∧ ∀ c ∈ key, isBareChar c = true

section Keys

theorem dropSpaces_append {gap : List Char} (blank : gap ⊆ blanks) (text : List Char) :
    dropSpaces (gap ++ text) = dropSpaces text := by
  apply List.dropWhile_append_of_pos
  intro c member
  have listed := blank member
  simp only [blanks, List.mem_cons, List.not_mem_nil, or_false] at listed
  rcases listed with rfl | rfl <;> rfl

theorem dropSpaces_cons {c : Char} (visible : isSpace c = false) (rest : List Char) :
    dropSpaces (c :: rest) = c :: rest :=
  List.dropWhile_cons_of_neg (Bool.eq_false_iff.mp visible)

/-- The characters that a line is searched for stand in no bare key. -/
theorem notMem_of_isBareChar {c : Char} (bare : isBareChar c = true) :
    c ∉ [' ', '\t', '\n', '\r', '[', '#', '.', '=', '\ufeff', '\x7b'] := by
  intro listed
  simp only [List.mem_cons, List.not_mem_nil, or_false] at listed
  rcases listed with rfl | rfl | rfl | rfl | rfl | rfl | rfl | rfl | rfl | rfl <;> cases bare

theorem isSpace_of_isBareChar {c : Char} (bare : isBareChar c = true) : isSpace c = false := by
  have other := notMem_of_isBareChar bare
  simp only [List.mem_cons, List.not_mem_nil, or_false, not_or] at other
  simp [isSpace, other]

/-- A bare key in front of an equals sign is read as the one part of a path. -/
theorem readKey_bare {key : List Char} (bare : IsBare key) {gap : List Char} (blank : gap ⊆ blanks)
    (rest : List Char) :
    readKey (key ++ gap ++ '=' :: rest) = some ([String.ofList key], '=' :: rest) := by
  obtain ⟨filled, all⟩ := bare
  obtain ⟨c, more, rfl⟩ := List.exists_cons_of_ne_nil filled
  have stops : Text.Stops isBareChar (gap ++ '=' :: rest) := by
    cases gap with
    | nil =>
        rintro _ ⟨⟩
        rfl
    | cons d gap =>
        rintro _ ⟨⟩
        have listed := blank List.mem_cons_self
        simp only [blanks, List.mem_cons, List.not_mem_nil, or_false] at listed
        rcases listed with rfl | rfl <;> rfl
  have spanned : (c :: more ++ gap ++ '=' :: rest).span isBareChar =
      (c :: more, gap ++ '=' :: rest) := by
    rw [List.append_assoc]
    exact Text.span_eq_iff.mpr ⟨rfl, all, stops⟩
  have part : readKeyPart (c :: more ++ gap ++ '=' :: rest) =
      some (String.ofList (c :: more), gap ++ '=' :: rest) := by
    rw [readKeyPart, spanned]
  have visible : dropSpaces (c :: more ++ gap ++ '=' :: rest) = c :: more ++ gap ++ '=' :: rest :=
    dropSpaces_cons (isSpace_of_isBareChar (all c List.mem_cons_self)) _
  rw [readKey, keyLimit, readKeyParts, visible, part, Option.bind_eq_bind, Option.bind_some]
  dsimp only
  rw [dropSpaces_append blank, dropSpaces_cons rfl]
  rfl

/-- A new key is added behind the entries of the document. -/
theorem addUnder_new {key : String} {entries : Entries} (new : entries.lookup key = none)
    (node : Node) : addUnder [] [key] node entries = some (entries ++ [(key, node)]) := by
  simp [addUnder, descend, addValue, new]

end Keys

section Entries

def Holds (name : ι → String) (stands : ι → Node → Prop) : List ι → Entries → Prop :=
  List.Forall₂ fun item entry => entry.1 = name item ∧ stands item entry.2

variable {items : List ι} {entries : Entries}

theorem Holds.lookup_eq_none (holds : Holds name stands items entries) {key : String}
    (other : ∀ item ∈ items, name item ≠ key) : entries.lookup key = none := by
  induction holds with
  | nil => rfl
  | @cons item entry items entries row _ ih =>
      obtain ⟨first, others⟩ := List.forall_mem_cons.mp other
      rw [Listing.lookup_cons_eq_ite, if_neg (by rw [row.1]; exact first.symm), ih others]

/-- Under the key of a line stands its value. -/
theorem Holds.exists_lookup (holds : Holds name stands items entries)
    (distinct : (items.map name).Nodup) {item : ι} (among : item ∈ items) :
    ∃ node, entries.lookup (name item) = some node ∧ stands item node := by
  induction holds with
  | nil => cases among
  | @cons first entry items entries row _ ih =>
      obtain ⟨apart, distinctLater⟩ := List.nodup_cons.mp distinct
      rw [Listing.lookup_cons_eq_ite]
      rcases List.mem_cons.mp among with rfl | later
      · exact ⟨entry.2, if_pos row.1.symm, row.2⟩
      · have differs : name item ≠ entry.1 := fun same =>
          apart (List.mem_map.mpr ⟨item, later, same.trans row.1⟩)
        rw [if_neg differs]
        exact ih distinctLater later

end Entries

section Lines

theorem lineEnd?_gap {gap : List Char} (blank : gap ⊆ blanks) : lineEnd? gap = some [] := by
  have dropped := dropSpaces_append blank []
  rw [List.append_nil] at dropped
  rw [lineEnd?, dropped]
  rfl

theorem lineEnd?_break {gap : List Char} (blank : gap ⊆ blanks) {ending : List Char}
    (breaks : ending ∈ [['\n'], ['\r', '\n']]) (rest : List Char) :
    lineEnd? (gap ++ (ending ++ rest)) = some rest := by
  rw [lineEnd?, dropSpaces_append blank]
  simp only [List.mem_cons, List.not_mem_nil, or_false] at breaks
  rcases breaks with rfl | rfl <;> rfl

/-- No line ends in front of a key. -/
theorem lineEnd?_of_isBareChar {c : Char} (bare : isBareChar c = true) (rest : List Char) :
    lineEnd? (c :: rest) = none := by
  have other := notMem_of_isBareChar bare
  simp only [List.mem_cons, List.not_mem_nil, or_false, not_or] at other
  obtain ⟨_, _, noBreak, noReturn, _, noComment, _⟩ := other
  have kept : dropComment (dropSpaces (c :: rest)) = c :: rest := by
    rw [dropSpaces_cons (isSpace_of_isBareChar bare)]
    unfold dropComment
    split
    · rename_i same
      exact absurd (List.cons.inj same).1 noComment
    · rfl
  have goesOn : lineBreak? (c :: rest) = none := by
    unfold lineBreak?
    split
    · rename_i same
      exact absurd (List.cons.inj same).1 noBreak
    · rename_i same
      exact absurd (List.cons.inj same).1 noReturn
    · rfl
  rw [lineEnd?, kept]
  exact goesOn

variable (reads : Reads (readValue (nestingLimit + 1)) valueOf stands)
  (bare : ∀ item, IsBare (name item).toList)

include reads bare

theorem readPair_row {item : ι} {before behind value : List Char} (blankBefore : before ⊆ blanks)
    (blankBehind : behind ⊆ blanks) (valued : valueOf item value) {rest : List Char}
    (follows : Follows rest) :
    ∃ node, stands item node ∧ readPair (readValue (nestingLimit + 1))
        ((name item).toList ++ before ++ '=' :: (behind ++ value ++ rest)) =
      some (([name item], node), rest) := by
  obtain ⟨node, stood, read⟩ := reads.reads valued follows
  obtain ⟨c, more, rfl, visible, _⟩ := reads.opens valued
  have noSpace : isSpace c = false := by
    simp only [fillers, List.mem_cons, List.not_mem_nil, or_false, not_or] at visible
    simp [isSpace, visible]
  have dropped : dropSpaces (behind ++ (c :: more) ++ rest) = c :: more ++ rest := by
    rw [List.append_assoc, dropSpaces_append blankBehind]
    exact dropSpaces_cons noSpace _
  refine ⟨node, stood, ?_⟩
  rw [readPair, readKey_bare (bare item) blankBefore, Option.bind_eq_bind, Option.bind_some,
    String.ofList_toList]
  dsimp only
  rw [dropSpaces_cons rfl]
  simp only [dropped, read]
  rfl

/-- A line is read as one more entry, in front of what is left behind its end. -/
theorem readRows_row {item : ι} {line : List Char} (row : SpellsRow name valueOf item line)
    {entries : Entries} (new : entries.lookup (name item) = none) {rest after : List Char}
    (follows : Follows rest) (ends : ∀ gap ⊆ blanks, lineEnd? (gap ++ rest) = some after)
    (rounds : Nat) :
    ∃ node, stands item node ∧ readRows (rounds + 1) [] entries (line ++ rest) =
      readRows rounds [] (entries ++ [(name item, node)]) after := by
  obtain ⟨front, before, behind, value, back, blankFront, blankBefore, blankBehind, blankBack,
    valued, rfl⟩ := row
  obtain ⟨node, stood, read⟩ :=
    readPair_row reads bare blankBefore blankBehind valued (follows.gap blankBack)
  refine ⟨node, stood, ?_⟩
  have shape : front ++ (name item).toList ++ before ++ '=' :: (behind ++ value ++ back) ++ rest =
      front ++ ((name item).toList ++ before ++ '=' :: (behind ++ value ++ (back ++ rest))) := by
    simp
  rw [shape]
  obtain ⟨filled, all⟩ := bare item
  obtain ⟨c, key, written⟩ := List.exists_cons_of_ne_nil filled
  have bareFirst : isBareChar c = true := all c (written ▸ List.mem_cons_self)
  rw [written, List.cons_append, List.cons_append] at read ⊢
  rw [readRows, dropSpaces_append blankFront, dropSpaces_cons (isSpace_of_isBareChar bareFirst)]
  split
  · rename_i same
    cases same
  · rename_i same
    obtain ⟨rfl, _⟩ := List.cons.inj same
    cases bareFirst
  · rename_i same
    obtain ⟨rfl, _⟩ := List.cons.inj same
    cases bareFirst
  · rw [lineEnd?_of_isBareChar bareFirst, read, Option.bind_eq_bind, Option.bind_some]
    dsimp only
    rw [addUnder_new new, ends back blankBack]
    rfl

/-- Lines are read one after the other. -/
theorem readRows_rows {items : List ι} {text : List Char}
    (rows : SpellsRows name valueOf items text) (distinct : (items.map name).Nodup)
    {entries : Entries} (new : ∀ item ∈ items, entries.lookup (name item) = none) {rounds : Nat}
    (enough : items.length < rounds) :
    ∃ added, Holds name stands items added ∧
      readRows rounds [] entries text = some (entries ++ added) := by
  induction rows generalizing entries rounds with
  | none =>
      obtain ⟨rounds, rfl⟩ := Nat.exists_eq_add_one_of_ne_zero (Nat.ne_zero_of_lt enough)
      exact ⟨[], .nil, by rw [List.append_nil]; rfl⟩
  | @last item line row =>
      obtain ⟨rounds, rfl⟩ : ∃ more, rounds = more + 2 := Nat.exists_eq_add_of_le' enough
      have fresh := new item List.mem_cons_self
      have ends : ∀ gap ⊆ blanks, lineEnd? (gap ++ []) = some [] := fun gap blank => by
        rw [List.append_nil, lineEnd?_gap blank]
      have nothing : Follows [] := fun _ none => nomatch none
      obtain ⟨node, stood, read⟩ := readRows_row reads bare row fresh nothing ends (rounds + 1)
      rw [List.append_nil] at read
      exact ⟨[(name item, node)], .cons ⟨rfl, stood⟩ .nil, read.trans rfl⟩
  | @more item items line ending rest row breaks later ih =>
      obtain ⟨rounds, rfl⟩ := Nat.exists_eq_add_one_of_ne_zero (Nat.ne_zero_of_lt enough)
      obtain ⟨fresh, freshLater⟩ := List.forall_mem_cons.mp new
      obtain ⟨apart, distinctLater⟩ := List.nodup_cons.mp distinct
      have follows : Follows (ending ++ rest) := by
        simp only [List.mem_cons, List.not_mem_nil, or_false] at breaks
        rcases breaks with rfl | rfl <;> (rintro _ ⟨⟩; decide)
      obtain ⟨node, stood, read⟩ := readRows_row reads bare row fresh follows
        (fun gap blank => lineEnd?_break blank breaks rest) rounds
      have newLater : ∀ other ∈ items,
          (entries ++ [(name item, node)]).lookup (name other) = none := by
        intro other member
        have differs : name other ≠ name item := fun same =>
          apart (List.mem_map.mpr ⟨other, member, same⟩)
        have alone : [(name item, node)].lookup (name other) = none := by
          rw [Listing.lookup_cons_eq_ite, if_neg differs, List.lookup_nil]
        rw [List.lookup_append, freshLater other member, alone]
        rfl
      obtain ⟨added, stands, readLater⟩ := ih distinctLater newLater (Nat.lt_of_succ_lt_succ enough)
      refine ⟨(name item, node) :: added, .cons ⟨rfl, stood⟩ stands, ?_⟩
      rw [List.append_assoc, read, readLater, List.append_assoc, List.singleton_append]

omit reads in
theorem SpellsRow.opens {item : ι} {line : List Char} (row : SpellsRow name valueOf item line) :
    ∃ gap c rest, line = gap ++ c :: rest ∧ gap ⊆ blanks ∧ isBareChar c = true := by
  obtain ⟨front, before, behind, value, back, blank, _, _, _, _, rfl⟩ := row
  obtain ⟨filled, all⟩ := bare item
  obtain ⟨c, key, written⟩ := List.exists_cons_of_ne_nil filled
  refine ⟨front, c, key ++ before ++ '=' :: (behind ++ value ++ back), ?_, blank,
    all c (written ▸ List.mem_cons_self)⟩
  rw [written]
  simp

omit reads in
/-- A document of rows is empty or begins with a key, perhaps behind blanks. -/
theorem SpellsRows.opens {items : List ι} {text : List Char}
    (rows : SpellsRows name valueOf items text) :
    text = [] ∨ ∃ gap c rest, text = gap ++ c :: rest ∧ gap ⊆ blanks ∧ isBareChar c = true := by
  cases rows with
  | none => exact .inl rfl
  | last row => exact .inr (row.opens bare)
  | more row breaks later =>
      obtain ⟨gap, c, rest, rfl, blank, bareFirst⟩ := row.opens bare
      exact .inr ⟨gap, c, _, by rw [List.append_assoc, List.append_assoc, List.cons_append],
        blank, bareFirst⟩

omit reads in
theorem SpellsRows.length_le {items : List ι} {text : List Char}
    (rows : SpellsRows name valueOf items text) : items.length ≤ text.length := by
  induction rows with
  | none => exact Nat.le_refl _
  | last row =>
      obtain ⟨gap, c, rest, rfl, _⟩ := row.opens bare
      simp only [List.length_append, List.length_cons, List.length_nil]
      omega
  | more row breaks later ih =>
      obtain ⟨gap, c, rest, rfl, _⟩ := row.opens bare
      simp only [List.length_append, List.length_cons]
      omega

/-- A document is read as its keys with their values, in the order of its lines. -/
theorem parse_rows {items : List ι} {document : String}
    (rows : SpellsRows name valueOf items document.toList) (distinct : (items.map name).Nodup) :
    ∃ entries, Holds name stands items entries ∧ parse document = some entries := by
  have unmarked : ∀ rest, document.toList ≠ '\ufeff' :: rest := by
    intro rest same
    rcases rows.opens bare with empty | ⟨gap, c, more, begins, blank, bareFirst⟩
    · cases same.symm.trans empty
    · cases gap with
      | nil =>
          obtain ⟨rfl, _⟩ := List.cons.inj (begins.symm.trans same)
          cases bareFirst
      | cons d gap =>
          obtain ⟨rfl, _⟩ := List.cons.inj (begins.symm.trans same)
          exact absurd (blank List.mem_cons_self) (by decide)
  have whole : parse document =
      readRows (document.toList.length + 1) [] [] document.toList := by
    unfold parse
    split
    · rename_i same
      exact absurd same (unmarked _)
    · rfl
  have new : ∀ item ∈ items, ([] : Entries).lookup (name item) = none := fun _ _ => rfl
  obtain ⟨entries, stood, read⟩ := readRows_rows reads bare rows distinct new
    (Nat.lt_succ_of_le (rows.length_le bare))
  exact ⟨entries, stood, whole.trans read⟩

end Lines

def writeRows (name : ι → String) (write : ι → List Char) (items : List ι) : List Char :=
  items.flatMap fun item => (name item).toList ++ " = ".toList ++ write item ++ ['\n']

theorem spellsRows_writeRows {write : ι → List Char} {items : List ι}
    (each : ∀ item ∈ items, valueOf item (write item)) :
    SpellsRows name valueOf items (writeRows name write items) := by
  induction items with
  | nil => exact .none
  | cons item items ih =>
      obtain ⟨valued, others⟩ := List.forall_mem_cons.mp each
      have row : SpellsRow name valueOf item ((name item).toList ++ " = ".toList ++ write item) :=
        ⟨[], [' '], [' '], write item, [], List.nil_subset blanks, by decide, by decide,
          List.nil_subset blanks, valued, by simp⟩
      exact .more row List.mem_cons_self (ih others)

end TestImpact.Toml
