import TestImpact.Proofs.Json.Faithful

/-!
# Records are read back

The fields of a record are written in their order, some of them left out, and each one
that is written is read into the record under construction. `Restores` follows that from
field to field. If it leads from the defaults to the record that was written, the members
are read back, in one pass and with no name found twice. Whatever is read, it does not
depend on the record that it is put into, so that a text is read into a family of records
at once.
-/

namespace TestImpact.Json

variable {ρ α : Type}

/-- What becomes of a record under construction when fields are read that were written for
a whole record. -/
inductive Restores (whole : ρ) : List (Field ρ) → ρ → ρ → Prop where
  | done (record : ρ) : Restores whole [] record record
  | written {field : Field ρ} {fields : List (Field ρ)} {record updated final : ρ} {value : Json}
      (writes : field.write whole = some value)
      (reads : ∀ rest, Closes rest →
        field.read record (value.compact ++ rest) = .ok (updated, rest))
      (later : Restores whole fields updated final) :
      Restores whole (field :: fields) record final
  | leftOut {field : Field ρ} {fields : List (Field ρ)} {record final : ρ}
      (optional : field.isRequired = false) (silent : field.write whole = none)
      (later : Restores whole fields record final) :
      Restores whole (field :: fields) record final

def Field.Keeps (field : Field ρ) (Fits : ρ → Prop) : Prop :=
  ∀ record text updated rest, Fits record → field.read record text = .ok (updated, rest) →
    Fits updated

/-- Reading a field keeps records as they may all be. -/
theorem Field.keeps_true (field : Field ρ) : field.Keeps fun _ => True :=
  fun _ _ _ _ _ _ => trivial

section Fields

variable {codec : Codec α} {Form : α → Prop} {Fits : ρ → Prop} {name : String} {get : ρ → α}
  {set : α → ρ → ρ} {isDefault : α → Bool} {whole record final : ρ} {fields : List (Field ρ)}
  (faithful : codec.Faithful Form)

include faithful

theorem readInto_written (form : Form (get whole)) {rest : List Char} (closes : Closes rest) :
    Field.readInto codec set record ((codec.write (get whole)).compact ++ rest) =
      .ok (set (get whole) record, rest) := by
  rw [Field.readInto, faithful.reads_back _ rest form closes]
  rfl

theorem Restores.required (form : Form (get whole))
    (later : Restores whole fields (set (get whole) record) final) :
    Restores whole (.required name codec get set :: fields) record final :=
  .written rfl (fun _ => readInto_written faithful form) later

theorem Restores.defaulted (form : Form (get whole))
    (later : Restores whole fields (set (get whole) record) final) :
    Restores whole (.defaulted name codec get set :: fields) record final :=
  .written rfl (fun _ => readInto_written faithful form) later

/-- A field that is left out has its default, and this is what the record has. -/
theorem Restores.omitted (form : Form (get whole))
    (default : isDefault (get whole) = true → get whole = get record)
    (same : set (get record) record = record)
    (later : Restores whole fields (set (get whole) record) final) :
    Restores whole (.omitted name codec get set isDefault :: fields) record final := by
  cases omits : isDefault (get whole) with
  | true =>
      rw [default omits, same] at later
      exact .leftOut rfl (if_pos omits) later
  | false =>
      refine .written (if_neg (Bool.eq_false_iff.mp omits)) (fun _ => ?_) later
      exact readInto_written faithful form

theorem keeps_readInto (keeps : ∀ value record, Form value → Fits record → Fits (set value record))
    {text : List Char} {updated : ρ} {rest : List Char} (fits : Fits record)
    (read : Field.readInto codec set record text = .ok (updated, rest)) : Fits updated := by
  obtain ⟨⟨value, after⟩, found, same⟩ := exists_of_map_eq_ok read
  cases same
  exact keeps value record (faithful.read_fits _ _ _ found) fits

theorem Field.keeps_required
    (keeps : ∀ value record, Form value → Fits record → Fits (set value record)) :
    (Field.required name codec get set).Keeps Fits :=
  fun _ _ _ _ => keeps_readInto faithful keeps

theorem Field.keeps_defaulted
    (keeps : ∀ value record, Form value → Fits record → Fits (set value record)) :
    (Field.defaulted name codec get set).Keeps Fits :=
  fun _ _ _ _ => keeps_readInto faithful keeps

theorem Field.keeps_omitted
    (keeps : ∀ value record, Form value → Fits record → Fits (set value record)) :
    (Field.omitted name codec get set isDefault).Keeps Fits :=
  fun _ _ _ _ => keeps_readInto faithful keeps

end Fields

/-- A field is found by its name. -/
theorem find?_name {fields : List (Field ρ)} (distinct : (fields.map (·.name)).Nodup)
    {field : Field ρ} (member : field ∈ fields) :
    fields.find? (·.name = field.name) = some field := by
  induction fields with
  | nil => cases member
  | cons first rest ih =>
      obtain ⟨new, later⟩ := List.nodup_cons.mp distinct
      rcases List.mem_cons.mp member with rfl | among
      · exact List.find?_cons_of_pos (decide_eq_true rfl)
      · have apart : first.name ≠ field.name := fun same =>
          new (List.mem_map.mpr ⟨field, among, same.symm⟩)
        rw [List.find?_cons_of_neg (by simpa using apart), ih later among]

/-- What is known of the fields that are still to be read when some names were given. -/
structure Ahead (fields later : List (Field ρ)) (given : List String) : Prop where
  distinct : (later.map (·.name)).Nodup
  fresh : ∀ field ∈ later, field.name ∉ given
  known : ∀ field ∈ later, fields.find? (·.name = field.name) = some field
  required : ∀ field ∈ fields, field.isRequired = true → field.name ∈ given ∨ field ∈ later

namespace Ahead

variable {fields later : List (Field ρ)} {field : Field ρ} {given : List String}

/-- At the beginning all fields are to be read. -/
theorem start (distinct : (fields.map (·.name)).Nodup) : Ahead fields fields [] where
  distinct := distinct
  fresh _ _ := List.not_mem_nil
  known _ := find?_name distinct
  required _ member _ := Or.inr member

theorem give (ahead : Ahead fields (field :: later) given) :
    Ahead fields later (field.name :: given) where
  distinct := (List.nodup_cons.mp ahead.distinct).2
  fresh := by
    intro other member
    have apart : other.name ≠ field.name := fun same =>
      (List.nodup_cons.mp ahead.distinct).1 (List.mem_map.mpr ⟨other, member, same⟩)
    exact List.not_mem_cons_of_ne_of_not_mem apart
      (ahead.fresh other (List.mem_cons_of_mem _ member))
  known other member := ahead.known other (List.mem_cons_of_mem _ member)
  required := by
    intro other member must
    rcases ahead.required other member must with before | here
    · exact Or.inl (List.mem_cons_of_mem _ before)
    · rcases List.mem_cons.mp here with rfl | after
      · exact Or.inl List.mem_cons_self
      · exact Or.inr after

theorem leaveOut (ahead : Ahead fields (field :: later) given)
    (optional : field.isRequired = false) : Ahead fields later given where
  distinct := (List.nodup_cons.mp ahead.distinct).2
  fresh other member := ahead.fresh other (List.mem_cons_of_mem _ member)
  known other member := ahead.known other (List.mem_cons_of_mem _ member)
  required := by
    intro other member must
    rcases ahead.required other member must with before | here
    · exact Or.inl before
    · rcases List.mem_cons.mp here with rfl | after
      · cases optional.symm.trans must
      · exact Or.inr after

end Ahead

/-- Fields that are all left out change nothing, and none of them is required. -/
theorem Restores.of_writeFields_eq_nil {whole record final : ρ} {fields : List (Field ρ)}
    (restores : Restores whole fields record final) (silent : writeFields fields whole = []) :
    final = record ∧ ∀ field ∈ fields, field.isRequired = false := by
  induction restores with
  | done record => exact ⟨rfl, by simp⟩
  | written writes reads later ih => simp [writeFields, writes] at silent
  | leftOut optional none later ih =>
      obtain ⟨same, others⟩ := ih (by simpa [writeFields, none] using silent)
      exact ⟨same, List.forall_mem_cons.mpr ⟨optional, others⟩⟩

theorem readMember_open (fields : List (Field ρ)) (record : ρ) (given : List String)
    (text : List Char) :
    readMember fields record given ('"' :: text) =
      (readQuoted text >>= fun read =>
        match fields.find? (·.name = read.1) with
        | none => colon read.2 >>= fun after => skipValue after >>= fun ending =>
            .ok ((record, given), ending)
        | some field =>
            if read.1 ∈ given then .error .mismatch
            else colon read.2 >>= fun after => field.read record after >>= fun updated =>
              .ok ((updated.1, read.1 :: given), updated.2)) := rfl

/-- A written member is read into the record, and its name counts as given. -/
theorem readMember_written {fields later : List (Field ρ)} {field : Field ρ}
    {record updated : ρ} {given : List String} {value : Json}
    (ahead : Ahead fields (field :: later) given)
    (reads : ∀ rest, Closes rest → field.read record (value.compact ++ rest) = .ok (updated, rest))
    {rest : List Char} (closes : Closes rest) :
    readMember fields record given
      ('"' :: (field.name.toList.flatMap escaped ++ '"' :: ':' :: (value.compact ++ rest))) =
        .ok ((updated, field.name :: given), rest) := by
  rw [readMember_open, readQuoted_written]
  dsimp only [bind, Except.bind]
  rw [ahead.known field List.mem_cons_self]
  dsimp only
  rw [if_neg (ahead.fresh field List.mem_cons_self)]
  have named : colon (':' :: (value.compact ++ rest)) = .ok (value.compact ++ rest) := rfl
  rw [named]
  dsimp only
  rw [reads rest closes]

/-- A record is complete once no required field is still to be read. -/
theorem Ahead.complete {fields later : List (Field ρ)} {given : List String}
    (ahead : Ahead fields later given) (optional : ∀ field ∈ later, field.isRequired = false) :
    Json.complete fields given = true := by
  rw [Json.complete, List.all_eq_true]
  intro field member
  cases must : field.isRequired with
  | false => rfl
  | true =>
      rcases ahead.required field member must with before | after
      · simpa using before
      · cases (optional field after).symm.trans must

/-- Written members are read back up to the closing bracket. -/
theorem readMembers_written {fields later : List (Field ρ)} {whole record final : ρ}
    (restores : Restores whole later record final) {given : List String}
    (ahead : Ahead fields later given) (some : writeFields later whole ≠ []) {rounds : Nat}
    (enough : (writeFields later whole).length ≤ rounds) (rest : List Char) :
    readMembers fields rounds record given
      (compactMembers (writeFields later whole) ++ '\x7d' :: rest) = .ok (final, rest) := by
  induction restores generalizing given rounds with
  | done record => exact absurd rfl some
  | @leftOut field later record final optional silent restores ih =>
      have same : writeFields (field :: later) whole = writeFields later whole := by
        simp [writeFields, silent]
      rw [same] at some enough ⊢
      exact ih (ahead.leaveOut optional) some enough
  | @written field later record updated final value writes reads restores ih =>
      have listed : writeFields (field :: later) whole =
          (field.name, value) :: writeFields later whole := by
        simp [writeFields, writes]
      have closes : Closes (behind compactMembers (writeFields later whole) ('\x7d' :: rest)) :=
        closes_behind _ _ (Or.inr (Or.inr rfl))
      rw [listed] at enough ⊢
      cases rounds with
      | zero => cases enough
      | succ rounds =>
          rw [compactMembers_cons, readMembers, readMember_written ahead reads closes]
          cases more : writeFields later whole with
          | nil =>
              obtain ⟨rfl, optional⟩ := restores.of_writeFields_eq_nil more
              have whole := ahead.give.complete optional
              dsimp only [bind, Except.bind, behind]
              rw [dropBlank_cons rfl]
              exact if_pos whole
          | cons next others =>
              rw [more] at ih enough
              exact ih ahead.give (List.cons_ne_nil next others) (Nat.le_of_succ_le_succ enough)

section Families

variable {ι : Type} {Family : (ι → ρ) → Prop} {fields : List (Field ρ)} {records : ι → ρ} {i : ι}

/-- One field is read into every record of a family if it is read into one of them, and
leaves a family. -/
def Field.Carries (field : Field ρ) (Family : (ι → ρ) → Prop) : Prop :=
  ∀ records i text updated rest, Family records →
    field.read (records i) text = .ok (updated, rest) →
      ∃ changed, Family changed ∧ changed i = updated ∧
        ∀ j, field.read (records j) text = .ok (changed j, rest)

/-- A record alone is a family. -/
theorem Field.Keeps.carries {field : Field ρ} {Fits : ρ → Prop} (keeps : field.Keeps Fits) :
    field.Carries fun records : Unit → ρ => Fits (records ()) :=
  fun records _ text updated rest fits read =>
    ⟨fun _ => updated, keeps (records ()) text updated rest fits read, rfl, fun _ => read⟩

/-- What is read does not depend on the record that it is put into. -/
theorem Field.carries_defaulted {name : String} {codec : Codec α} {get : ρ → α}
    {set : α → ρ → ρ}
    (closed : ∀ value records, Family records → Family fun j => set value (records j)) :
    (Field.defaulted name codec get set).Carries Family := by
  intro records i text updated rest fits read
  obtain ⟨⟨value, after⟩, found, same⟩ := exists_of_map_eq_ok read
  cases same
  refine ⟨fun j => set value (records j), closed value records fits, rfl, fun j => ?_⟩
  change (codec.read text).map _ = _
  rw [found]
  rfl

theorem carries_readMember (carries : ∀ field ∈ fields, field.Carries Family)
    {updated : ρ} {given names : List String} {text rest : List Char} (fits : Family records)
    (read : readMember fields (records i) given text = .ok ((updated, names), rest)) :
    ∃ changed, Family changed ∧ changed i = updated ∧
      ∀ j, readMember fields (records j) given text = .ok ((changed j, names), rest) := by
  unfold readMember at read ⊢
  split at read
  · obtain ⟨⟨name, after⟩, named, goesOn⟩ := exists_of_bind_eq_ok read
    simp only [named, bind, Except.bind]
    dsimp only at goesOn
    split at goesOn
    · obtain ⟨value, colon, passed⟩ := exists_of_bind_eq_ok goesOn
      obtain ⟨ending, skipped, same⟩ := exists_of_bind_eq_ok passed
      cases same
      refine ⟨records, fits, rfl, fun j => ?_⟩
      simp only [colon, skipped]
    · rename_i field found
      split at goesOn
      · cases goesOn
      · rename_i new
        obtain ⟨value, colon, valued⟩ := exists_of_bind_eq_ok goesOn
        obtain ⟨⟨changed, ending⟩, into, same⟩ := exists_of_bind_eq_ok valued
        cases same
        obtain ⟨others, still, here, all⟩ :=
          carries field (List.mem_of_find?_eq_some found) _ _ _ _ _ fits into
        refine ⟨others, still, here, fun j => ?_⟩
        simp only [if_neg new, colon, all j]
  · cases read
  · cases read

theorem carries_readMembers (carries : ∀ field ∈ fields, field.Carries Family) {rounds : Nat}
    {final : ρ} {given : List String} {text rest : List Char} (fits : Family records)
    (read : readMembers fields rounds (records i) given text = .ok (final, rest)) :
    ∃ changed, Family changed ∧ changed i = final ∧
      ∀ j, readMembers fields rounds (records j) given text = .ok (changed j, rest) := by
  induction rounds generalizing records given text with
  | zero => cases read
  | succ rounds ih =>
      rw [readMembers] at read
      obtain ⟨⟨⟨updated, names⟩, after⟩, member, goesOn⟩ := exists_of_bind_eq_ok read
      obtain ⟨changed, still, rfl, all⟩ := carries_readMember carries fits member
      dsimp only at goesOn
      split at goesOn
      · rename_i comma
        obtain ⟨others, later, here, rest⟩ := ih still goesOn
        refine ⟨others, later, here, fun j => ?_⟩
        simp only [readMembers, all j, bind, Except.bind, comma, rest j]
      · rename_i closing
        split at goesOn
        · rename_i whole
          cases goesOn
          refine ⟨changed, still, rfl, fun j => ?_⟩
          simp only [readMembers, all j, bind, Except.bind, closing, if_pos whole]
        · cases goesOn
      · cases goesOn
      · cases goesOn

theorem carries_readOrdered (carries : ∀ field ∈ fields, field.Carries Family)
    {isFirst : Bool} {final : ρ} {text rest : List Char} (fits : Family records)
    (read : readOrdered fields isFirst (records i) text = .ok (final, rest)) :
    ∃ changed, Family changed ∧ changed i = final ∧
      ∀ j, readOrdered fields isFirst (records j) text = .ok (changed j, rest) := by
  induction fields generalizing isFirst records text with
  | nil =>
      unfold readOrdered at read ⊢
      split at read
      · cases read
        exact ⟨records, fits, rfl, fun _ => rfl⟩
      · cases read
      · cases read
  | cons field later ih =>
      obtain ⟨first, others⟩ := List.forall_mem_cons.mp carries
      have goesOn {text : List Char}
          (read : (field.read (records i) text >>= fun updated =>
            readOrdered later false updated.1 updated.2) = .ok (final, rest)) :
          ∃ changed, Family changed ∧ changed i = final ∧
            ∀ j, (field.read (records j) text >>= fun updated =>
              readOrdered later false updated.1 updated.2) = .ok (changed j, rest) := by
        obtain ⟨⟨updated, after⟩, into, continued⟩ := exists_of_bind_eq_ok read
        obtain ⟨changed, still, rfl, all⟩ := first _ _ _ _ _ fits into
        obtain ⟨ends, last, here, rest⟩ := ih others still continued
        refine ⟨ends, last, here, fun j => ?_⟩
        rw [all j]
        exact rest j
      unfold readOrdered at read ⊢
      split at read
      · split at read
        · rename_i whole
          cases read
          exact ⟨records, fits, rfl, fun _ => if_pos whole⟩
        · cases read
      · cases read
      · split at read
        · rename_i isFirst
          obtain ⟨changed, still, here, all⟩ := goesOn read
          exact ⟨changed, still, here, fun j => (if_pos isFirst).trans (all j)⟩
        · rename_i isLater
          split at read
          · rename_i comma
            obtain ⟨changed, still, here, all⟩ := goesOn read
            refine ⟨changed, still, here, fun j => ?_⟩
            exact (if_neg isLater).trans ((if_pos comma).trans (all j))
          · cases read

/-- A text that is read into one record of a family is read into all of them alike. -/
theorem carries_readRecord (carries : ∀ field ∈ fields, field.Carries Family) {final : ρ}
    {text rest : List Char} (fits : Family records)
    (read : readRecord fields (records i) text = .ok (final, rest)) :
    ∃ changed, Family changed ∧ changed i = final ∧
      ∀ j, readRecord fields (records j) text = .ok (changed j, rest) := by
  unfold readRecord at read ⊢
  split at read
  · split at read
    · split at read
      · rename_i whole
        cases read
        exact ⟨records, fits, rfl, fun _ => if_pos whole⟩
      · cases read
    · exact carries_readMembers carries fits read
  · exact carries_readOrdered carries fits read
  · cases read

end Families

theorem readRecord_open (fields : List (Field ρ)) (start : ρ) (text : List Char) :
    readRecord fields start ('\x7b' :: text) =
      match dropBlank text with
      | '\x7d' :: after =>
          if complete fields [] then .ok (start, after) else .error .mismatch
      | first => readMembers fields first.length start [] first := rfl

/-- Records whose fields lead from the defaults to the record that was written are read
back. -/
theorem faithful_recordCodec {Fits : ρ → Prop} {fields : List (Field ρ)} {start : ρ}
    (distinct : (fields.map (·.name)).Nodup) (fitting : Fits start)
    (keeps : ∀ field ∈ fields, field.Keeps Fits)
    (restores : ∀ whole, Fits whole → Restores whole fields start whole) :
    (recordCodec fields start).Faithful Fits where
  opens whole := by
    refine ⟨'\x7b', compactMembers (writeFields fields whole) ++ ['\x7d'], ?_, rfl, by decide⟩
    rw [recordCodec, compact]
  reads_back whole rest fits closes := by
    have written : ((recordCodec fields start).write whole).compact ++ rest =
        '\x7b' :: (compactMembers (writeFields fields whole) ++ '\x7d' :: rest) := by
      rw [recordCodec, compact]
      simp
    have reader : (recordCodec fields start).read = readRecord fields start := rfl
    have ahead := Ahead.start distinct
    rw [written, reader, readRecord_open]
    cases listed : writeFields fields whole with
    | nil =>
        obtain ⟨rfl, optional⟩ := (restores whole fits).of_writeFields_eq_nil listed
        exact if_pos (ahead.complete optional)
    | cons member later =>
        obtain ⟨name, value⟩ := member
        have some : writeFields fields whole ≠ [] := listed ▸ List.cons_ne_nil _ _
        have enough := length_le_compactMembers (writeFields fields whole) ('\x7d' :: rest)
        have read := readMembers_written (restores whole fits) ahead some enough rest
        rw [listed, compactMembers_cons] at read
        rw [compactMembers_cons, dropBlank_cons rfl]
        exact read
  read_fits text whole rest read := by
    have all := fun field member => (keeps field member).carries
    obtain ⟨_, still, rfl, _⟩ :=
      @carries_readRecord ρ Unit _ fields (fun _ => start) () all whole text rest fitting read
    exact still

end TestImpact.Json
