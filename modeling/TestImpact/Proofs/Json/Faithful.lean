import TestImpact.Json.Codec
import TestImpact.Proofs.Json.Numeral
import TestImpact.Proofs.Json.Quoted

/-!
# Faithful codecs

A codec is faithful to the values of some form if what it writes for such a value, in
front of anything that may follow a value, is read as this value, and if it reads no
others. Such codecs are put together as the values are: texts, numbers and names, then
lists, dictionaries and values that may be missing.
-/

namespace TestImpact.Json

open Listing (Dictionary)

variable {α : Type} {codec : Codec α} {Fits : α → Prop}

/-- A codec whose written values are read back, and that reads no values but those of
a form. -/
structure Codec.Faithful (codec : Codec α) (Fits : α → Prop) : Prop where
  /-- A written value begins with no blank and closes no list. -/
  opens : ∀ value, ∃ c rest,
    (codec.write value).compact = c :: rest ∧ isBlank c = false ∧ c ≠ ']'
  reads_back : ∀ value rest, Fits value → Closes rest →
    codec.read ((codec.write value).compact ++ rest) = .ok (value, rest)
  read_fits : ∀ text value rest, codec.read text = .ok (value, rest) → Fits value

namespace Codec.Faithful

/-- What is written for a value is the text of this value. -/
theorem decode_encode (faithful : codec.Faithful Fits) {value : α} (fits : Fits value) :
    codec.decode (codec.encode value) = .ok value := by
  have read := faithful.reads_back value [] fits trivial
  rw [List.append_nil] at read
  rw [decode, encode, readDocument, toText, String.toList_ofList, read]
  rfl

theorem fits_of_decode (faithful : codec.Faithful Fits) {text : String} {value : α}
    (decoded : codec.decode text = .ok value) : Fits value := by
  obtain ⟨⟨found, rest⟩, read, ended⟩ := exists_of_bind_eq_ok decoded
  dsimp only at ended
  split at ended
  · cases ended
    exact faithful.read_fits _ _ _ read
  · cases ended

/-- A form may be told in other words. -/
theorem congr (faithful : codec.Faithful Fits) {Form : α → Prop}
    (same : ∀ value, Fits value ↔ Form value) : codec.Faithful Form where
  opens := faithful.opens
  reads_back value rest fits := faithful.reads_back value rest ((same value).mpr fits)
  read_fits text value rest read := (same value).mp (faithful.read_fits text value rest read)

end Codec.Faithful

theorem quoted_append (value : String) (rest : List Char) :
    quoted value ++ rest = '"' :: (value.toList.flatMap escaped ++ '"' :: rest) := by
  simp [quoted]

theorem faithful_textCodec : textCodec.Faithful fun _ => True where
  opens value := ⟨'"', _, rfl, rfl, by decide⟩
  reads_back value rest _ _ := by
    have written : (textCodec.write value).compact = quoted value := rfl
    rw [written, quoted_append]
    exact readQuoted_written value rest
  read_fits _ _ _ _ := trivial

theorem faithful_flagCodec : flagCodec.Faithful fun _ => True where
  opens value := by
    cases value with
    | true => exact ⟨'t', _, rfl, rfl, by decide⟩
    | false => exact ⟨'f', _, rfl, rfl, by decide⟩
  reads_back value rest _ _ := by
    cases value <;> rfl
  read_fits _ _ _ _ := trivial

theorem faithful_naturalCodec : naturalCodec.Faithful (· < Nat.pow 2 64) where
  opens value := by
    obtain ⟨first, more, written, digit⟩ := exists_toDigits_eq_cons value
    refine ⟨first, more, written, isBlank_of_isDigit digit, ?_⟩
    rintro rfl
    cases digit
  reads_back value rest fits closes := readNatural_toDigits fits closes.endsNumeral
  read_fits _ _ _ := lt_of_readNatural

/-- Names that are chosen as what they name are read back. -/
theorem faithful_choiceCodec {name : α → String} {choose : String → Option α}
    (chosen : ∀ value, choose (name value) = some value) :
    (choiceCodec name choose).Faithful fun _ => True where
  opens value := ⟨'"', _, rfl, rfl, by decide⟩
  reads_back value rest _ _ := by
    have written : ((choiceCodec name choose).write value).compact = quoted (name value) := rfl
    have read : readChoice choose ('"' :: ((name value).toList.flatMap escaped ++ '"' :: rest)) =
        readChoice.named choose ((name value).toList.flatMap escaped ++ '"' :: rest) := rfl
    rw [written, quoted_append]
    refine read.trans ?_
    rw [readChoice.named, readQuoted_written]
    dsimp only [bind, Except.bind]
    rw [chosen]
  read_fits _ _ _ _ := trivial

/-- Values that may be missing are read back if none is written like a missing one. -/
theorem Codec.Faithful.optional (faithful : codec.Faithful Fits)
    (present : ∀ value rest, (codec.write value).compact ≠ 'n' :: rest) :
    (optionalCodec codec).Faithful fun value? => ∀ value ∈ value?, Fits value where
  opens value? := by
    cases value? with
    | none => exact ⟨'n', _, rfl, rfl, by decide⟩
    | some value => exact faithful.opens value
  reads_back value? rest fits closes := by
    cases value? with
    | none => rfl
    | some value =>
        have read := faithful.reads_back value rest (fits value rfl) closes
        obtain ⟨c, more, written, visible, _⟩ := faithful.opens value
        have other : c ≠ 'n' := fun same => present value more (same ▸ written)
        change readOptional codec.read ((codec.write value).compact ++ rest) = _
        rw [written, List.cons_append] at read ⊢
        rw [readOptional, dropBlank_cons visible]
        split
        · rename_i same
          exact absurd (List.cons.inj same).1 other
        · rw [read]
          rfl
  read_fits text value? rest read := by
    intro value member
    change readOptional codec.read text = _ at read
    unfold readOptional at read
    split at read
    · obtain ⟨after, _, none⟩ := exists_of_map_eq_ok read
      cases none
      cases member
    · obtain ⟨⟨found, after⟩, inner, same⟩ := exists_of_map_eq_ok read
      cases same
      cases member
      exact faithful.read_fits _ _ _ inner

def behind (write : List α → List Char) (later : List α) (rest : List Char) : List Char :=
  match later with
  | [] => rest
  | next :: more => ',' :: (write (next :: more) ++ rest)

theorem compactItems_cons (item : Json) (later : List Json) (rest : List Char) :
    compactItems (item :: later) ++ rest = item.compact ++ behind compactItems later rest := by
  cases later with
  | nil => simp [compactItems, behind]
  | cons next more => simp [compactItems, behind]

theorem closes_behind (write : List α → List Char) (later : List α) {rest : List Char}
    (closes : Closes rest) : Closes (behind write later rest) := by
  cases later with
  | nil => exact closes
  | cons next more => exact Or.inl rfl

theorem length_le_compactItems {items : List Json}
    (nonempty : ∀ item ∈ items, item.compact ≠ []) (rest : List Char) :
    items.length ≤ (compactItems items ++ rest).length := by
  induction items generalizing rest with
  | nil => exact Nat.zero_le _
  | cons item later ih =>
      obtain ⟨first, others⟩ := List.forall_mem_cons.mp nonempty
      have some := List.length_pos_iff.mpr first
      have more : later.length ≤ (behind compactItems later rest).length := by
        cases later with
        | nil => exact Nat.zero_le _
        | cons next later => exact Nat.le_succ_of_le (ih others rest)
      rw [compactItems_cons, List.length_append, List.length_cons]
      omega

section List

variable (faithful : codec.Faithful Fits)

include faithful

theorem Codec.Faithful.compact_ne_nil (value : α) : (codec.write value).compact ≠ [] := by
  obtain ⟨c, rest, written, _⟩ := faithful.opens value
  rw [written]
  exact List.cons_ne_nil c rest

/-- Written items are read back up to the closing bracket. -/
theorem readItems_written {items : List α} (some : items ≠ []) (fits : ∀ item ∈ items, Fits item)
    {rounds : Nat} (enough : items.length ≤ rounds) (rest : List Char) :
    readItems codec.read rounds (compactItems (items.map codec.write) ++ ']' :: rest) =
      .ok (items, rest) := by
  induction items generalizing rounds with
  | nil => exact absurd rfl some
  | cons item later ih =>
      obtain ⟨first, others⟩ := List.forall_mem_cons.mp fits
      have closes : Closes (behind compactItems (later.map codec.write) (']' :: rest)) :=
        closes_behind _ _ (Or.inr (Or.inl rfl))
      cases rounds with
      | zero => cases enough
      | succ rounds =>
          rw [List.map_cons, compactItems_cons, readItems, faithful.reads_back item _ first closes]
          cases later with
          | nil => rfl
          | cons next more =>
              have goesOn := ih (List.cons_ne_nil next more) others (Nat.le_of_succ_le_succ enough)
              have step : readItems codec.read rounds
                  (compactItems ((next :: more).map codec.write) ++ ']' :: rest) >>=
                    (fun read => .ok (item :: read.1, read.2)) =
                  .ok (item :: next :: more, rest) := by
                rw [goesOn]
                rfl
              exact step

theorem fits_of_readItems {rounds : Nat} {text rest : List Char} {items : List α}
    (read : readItems codec.read rounds text = .ok (items, rest)) :
    ∀ item ∈ items, Fits item := by
  induction rounds generalizing text items rest with
  | zero => cases read
  | succ rounds ih =>
      rw [readItems] at read
      obtain ⟨⟨first, after⟩, found, goesOn⟩ := exists_of_bind_eq_ok read
      have fits := faithful.read_fits _ _ _ found
      dsimp only at goesOn
      split at goesOn
      · obtain ⟨⟨later, ending⟩, more, same⟩ := exists_of_bind_eq_ok goesOn
        cases same
        exact List.forall_mem_cons.mpr ⟨fits, ih more⟩
      · cases goesOn
        exact List.forall_mem_singleton.mpr fits
      · cases goesOn
      · cases goesOn

omit faithful in
theorem readList_open (reader : Reader α) (text : List Char) :
    readList reader ('[' :: text) =
      match dropBlank text with
      | ']' :: after => .ok ([], after)
      | first => readItems reader first.length first := rfl

/-- Lists of values that are read back are read back. -/
theorem Codec.Faithful.list : (listCodec codec).Faithful fun items => ∀ item ∈ items, Fits item where
  opens items := by
    refine ⟨'[', compactItems (items.map codec.write) ++ [']'], ?_, rfl, by decide⟩
    rw [listCodec, compact]
  reads_back items rest fits closes := by
    have written : ((listCodec codec).write items).compact ++ rest =
        '[' :: (compactItems (items.map codec.write) ++ ']' :: rest) := by
      rw [listCodec, compact]
      simp
    rw [written]
    cases items with
    | nil => rfl
    | cons item later =>
        have nonempty : ∀ value ∈ (item :: later).map codec.write, value.compact ≠ [] := by
          intro value member
          obtain ⟨source, _, rfl⟩ := List.mem_map.mp member
          exact faithful.compact_ne_nil source
        have enough := length_le_compactItems nonempty (']' :: rest)
        rw [List.length_map] at enough
        obtain ⟨c, more, begins, visible, other⟩ := faithful.opens item
        have text : compactItems ((item :: later).map codec.write) ++ ']' :: rest =
            c :: (more ++ behind compactItems (later.map codec.write) (']' :: rest)) := by
          rw [List.map_cons, compactItems_cons, begins, List.cons_append]
        have read := readItems_written faithful (List.cons_ne_nil item later) fits enough rest
        rw [text] at read ⊢
        refine (readList_open codec.read _).trans ?_
        rw [dropBlank_cons visible]
        split
        · rename_i same
          exact absurd (List.cons.inj same).1 other
        · exact read
  read_fits text items rest read := by
    change readList codec.read text = _ at read
    unfold readList at read
    split at read
    · split at read
      · cases read
        simp
      · exact fits_of_readItems faithful read
    · cases read

end List

/-- Lists of texts are read back. -/
theorem faithful_textsCodec : textsCodec.Faithful fun _ => True :=
  faithful_textCodec.list.congr (by simp)

theorem compactMembers_cons (name : String) (value : Json) (later : List (String × Json))
    (rest : List Char) :
    compactMembers ((name, value) :: later) ++ rest =
      '"' :: (name.toList.flatMap escaped ++ '"' :: ':' ::
        (value.compact ++ behind compactMembers later rest)) := by
  cases later with
  | nil => simp [compactMembers, quoted, behind]
  | cons next more => simp [compactMembers, quoted, behind]

theorem length_le_compactMembers (members : List (String × Json)) (rest : List Char) :
    members.length ≤ (compactMembers members ++ rest).length := by
  induction members generalizing rest with
  | nil => exact Nat.zero_le _
  | cons member later ih =>
      obtain ⟨name, value⟩ := member
      have more : later.length ≤ (behind compactMembers later rest).length := by
        cases later with
        | nil => exact Nat.zero_le _
        | cons next later => exact Nat.le_succ_of_le (ih rest)
      rw [compactMembers_cons]
      simp only [List.length_cons, List.length_append]
      omega

section Dictionary

def writeEntries (codec : Codec α) (entries : List (String × α)) : List (String × Json) :=
  entries.map fun (key, content) => (key, codec.write content)

variable (faithful : codec.Faithful Fits)

include faithful

omit faithful in
theorem readName_open (text : List Char) :
    readName ('"' :: text) =
      (readQuoted text >>= fun read => colon read.2 >>= fun after => .ok (read.1, after)) := rfl

/-- Written entries are read back up to the closing bracket. -/
theorem readEntries_written {entries : List (String × α)} (some : entries ≠ [])
    (fits : ∀ entry ∈ entries, Fits entry.2) {rounds : Nat} (enough : entries.length ≤ rounds)
    (rest : List Char) :
    readEntries codec.read rounds (compactMembers (writeEntries codec entries) ++ '\x7d' :: rest) =
      .ok (entries, rest) := by
  induction entries generalizing rounds with
  | nil => exact absurd rfl some
  | cons entry later ih =>
      obtain ⟨key, content⟩ := entry
      obtain ⟨first, others⟩ := List.forall_mem_cons.mp fits
      have closes : Closes (behind compactMembers (writeEntries codec later) ('\x7d' :: rest)) :=
        closes_behind _ _ (Or.inr (Or.inr rfl))
      cases rounds with
      | zero => cases enough
      | succ rounds =>
          have named (after : List Char) :
              readName ('"' :: (key.toList.flatMap escaped ++ '"' :: ':' :: after)) =
                .ok (key, after) := by
            refine (readName_open _).trans ?_
            rw [readQuoted_written]
            rfl
          have text : compactMembers (writeEntries codec ((key, content) :: later)) ++
              '\x7d' :: rest = _ :=
            compactMembers_cons key (codec.write content) (writeEntries codec later) _
          rw [text, readEntries, named]
          dsimp only [bind, Except.bind]
          rw [faithful.reads_back content _ first closes]
          cases later with
          | nil => rfl
          | cons next more =>
              have goesOn := ih (List.cons_ne_nil next more) others (Nat.le_of_succ_le_succ enough)
              have step : readEntries codec.read rounds
                  (compactMembers (writeEntries codec (next :: more)) ++ '\x7d' :: rest) >>=
                    (fun read => .ok ((key, content) :: read.1, read.2)) =
                  .ok ((key, content) :: next :: more, rest) := by
                rw [goesOn]
                rfl
              exact step

theorem fits_of_readEntries {rounds : Nat} {text rest : List Char}
    {entries : List (String × α)}
    (read : readEntries codec.read rounds text = .ok (entries, rest)) :
    ∀ entry ∈ entries, Fits entry.2 := by
  induction rounds generalizing text entries rest with
  | zero => cases read
  | succ rounds ih =>
      rw [readEntries] at read
      obtain ⟨⟨name, named⟩, _, valued⟩ := exists_of_bind_eq_ok read
      obtain ⟨⟨first, after⟩, found, goesOn⟩ := exists_of_bind_eq_ok valued
      have fits := faithful.read_fits _ _ _ found
      dsimp only at goesOn
      split at goesOn
      · obtain ⟨⟨later, ending⟩, more, same⟩ := exists_of_bind_eq_ok goesOn
        cases same
        exact List.forall_mem_cons.mpr ⟨fits, ih more⟩
      · cases goesOn
        exact List.forall_mem_singleton.mpr fits
      · cases goesOn
      · cases goesOn

omit faithful in
theorem readDictionary_open (reader : Reader α) (text : List Char) :
    readDictionary reader ('\x7b' :: text) =
      match dropBlank text with
      | '\x7d' :: after => .ok (.empty, after)
      | first => readEntries reader first.length first >>= fun read =>
          .ok (.ofList read.1, read.2) := rfl

/-- Dictionaries of values that are read back are read back. -/
theorem Codec.Faithful.dictionary : (dictionaryCodec codec).Faithful fun dictionary =>
    ∀ entry ∈ dictionary.entries, Fits entry.2 where
  opens dictionary := by
    refine ⟨'\x7b', compactMembers (writeEntries codec dictionary.entries) ++ ['\x7d'], ?_, rfl,
      by decide⟩
    rw [dictionaryCodec, compact]
    rfl
  reads_back dictionary rest fits closes := by
    have written : ((dictionaryCodec codec).write dictionary).compact ++ rest =
        '\x7b' :: (compactMembers (writeEntries codec dictionary.entries) ++ '\x7d' :: rest) := by
      rw [dictionaryCodec, compact]
      simp [writeEntries]
    rw [written]
    cases listed : dictionary.entries with
    | nil =>
        have bare : dictionary = .empty := Dictionary.eq_of_entries_eq listed
        rw [bare]
        rfl
    | cons entry later =>
        obtain ⟨key, content⟩ := entry
        rw [listed] at fits
        have enough := length_le_compactMembers
          (writeEntries codec ((key, content) :: later)) ('\x7d' :: rest)
        rw [writeEntries, List.length_map, ← writeEntries] at enough
        have read :=
          readEntries_written faithful (List.cons_ne_nil (key, content) later) fits enough rest
        have text : compactMembers (writeEntries codec ((key, content) :: later)) ++
            '\x7d' :: rest = _ :=
          compactMembers_cons key (codec.write content) (writeEntries codec later) _
        have reader : (dictionaryCodec codec).read = readDictionary codec.read := rfl
        rw [text] at read ⊢
        rw [reader, readDictionary_open]
        have whole : Dictionary.ofList ((key, content) :: later) = dictionary := by
          rw [← listed, dictionary.ofList_entries]
        rw [dropBlank_cons rfl, ← whole]
        exact congrArg (fun outcome => outcome >>= fun found =>
          Except.ok (Dictionary.ofList found.1, found.2)) read
  read_fits text dictionary rest read := by
    change readDictionary codec.read text = _ at read
    unfold readDictionary at read
    split at read
    · split at read
      · cases read
        intro entry member
        cases member
      · obtain ⟨⟨entries, ending⟩, found, same⟩ := exists_of_bind_eq_ok read
        cases same
        intro entry member
        exact fits_of_readEntries faithful found entry (Dictionary.mem_of_mem_ofList member)
    · cases read

end Dictionary

end TestImpact.Json
