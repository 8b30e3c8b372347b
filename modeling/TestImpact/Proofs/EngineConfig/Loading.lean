import TestImpact.Proofs.EngineConfig.Depth
import TestImpact.Proofs.EngineConfig.Settings

/-!
# What loading a configuration gives

What is written in a file has to be valid on its own, before the depth in the environment
is looked at, and the environment has to write a number in range, if a text is set there.
Nothing else is asked, and what comes out is what is written, with the depth of the
environment. Bytes that are no text are not looked at, though they write no number.
-/

namespace TestImpact.EngineConfig

/-- A configuration that an engine can work with. -/
structure Valid (config : EngineConfig) : Prop where
  least : 1 ≤ config.depth
  most : config.depth ≤ 16
  /-- Every marker has a character that is no blank. -/
  marked : ∀ marker ∈ config.markers, ∃ c ∈ marker.toList, Text.isBlank c = false

theorem trim_ne_empty_iff {marker : String} :
    Text.trim marker ≠ "" ↔ ∃ c ∈ marker.toList, Text.isBlank c = false := by
  rw [Ne, Text.trim_eq_empty_iff]
  simp only [not_forall, exists_prop, Bool.not_eq_true]

/-- What a check of a configuration says. -/
theorem checked_cases (config : EngineConfig) :
    config.Valid ∧ checked config = .ok config ∨
      ¬ (1 ≤ config.depth ∧ config.depth ≤ 16) ∧
        checked config = .error (.depthOutOfRange config.depth) ∨
      (1 ≤ config.depth ∧ config.depth ≤ 16) ∧ ¬ config.Valid ∧
        checked config = .error .blankMarker := by
  unfold checked validate
  split
  · rename_i beyond
    rw [depthLimit] at beyond
    exact .inr (.inl ⟨by omega, rfl⟩)
  · rename_i within
    rw [depthLimit] at within
    split
    · rename_i unmarked
      obtain ⟨marker, member, blank⟩ := List.any_eq_true.mp unmarked
      refine .inr (.inr ⟨by omega, fun valid => ?_, rfl⟩)
      exact trim_ne_empty_iff.mpr (valid.marked marker member) (of_decide_eq_true blank)
    · rename_i marked
      refine .inl ⟨⟨by omega, by omega, fun marker member => ?_⟩, rfl⟩
      apply trim_ne_empty_iff.mp
      intro blank
      exact marked (List.any_eq_true.mpr ⟨marker, member, decide_eq_true blank⟩)

theorem checked_eq_ok_iff {config outcome : EngineConfig} :
    checked config = .ok outcome ↔ config.Valid ∧ config = outcome := by
  rcases checked_cases config with ⟨valid, same⟩ | ⟨beyond, refused⟩ | ⟨_, invalid, refused⟩
  · rw [same, Except.ok.injEq]
    exact ⟨fun equal => ⟨valid, equal⟩, And.right⟩
  · rw [refused]
    exact ⟨nofun, fun ⟨valid, _⟩ => absurd ⟨valid.least, valid.most⟩ beyond⟩
  · rw [refused]
    exact ⟨nofun, fun ⟨valid, _⟩ => absurd valid invalid⟩

theorem checked_of_beyond {config : EngineConfig}
    (beyond : ¬ (1 ≤ config.depth ∧ config.depth ≤ 16)) :
    checked config = .error (.depthOutOfRange config.depth) := by
  rcases checked_cases config with ⟨valid, _⟩ | ⟨_, refused⟩ | ⟨within, _, _⟩
  · exact absurd ⟨valid.least, valid.most⟩ beyond
  · exact refused
  · exact absurd within beyond

theorem checked_ne_notANumber (config : EngineConfig) (raw : String) :
    checked config ≠ .error (.depthNotANumber raw) := by
  rcases checked_cases config with ⟨_, same⟩ | ⟨_, same⟩ | ⟨_, _, same⟩
  · rw [same]
    exact nofun
  · rw [same]
    exact nofun
  · rw [same]
    exact nofun

variable {disk : Disk Id} {path? : Option String} {found : EnvironmentValue}
  {config outcome : EngineConfig}

/-- The settings in the file, or none without a file. -/
inductive Given (disk : Disk Id) : Option String → Settings → Prop
  | nothing : Given disk none .nothing
  | file {path text : String} {settings : Settings} (content : disk.readText path = .ok text)
      (gives : Gives text settings) : Given disk (some path) settings

/-- The valid configuration that is written: the given settings over the defaults. -/
inductive Written (disk : Disk Id) (path? : Option String) : EngineConfig → Prop
  | intro {settings : Settings} (given : Given disk path? settings)
      (valid : (settings.over usual).Valid) : Written disk path? (settings.over usual)

theorem Written.valid (written : Written disk path? config) : config.Valid := by
  cases written with
  | intro given valid => exact valid

/-- What the environment makes of a configuration. -/
inductive Overrides : EnvironmentValue → EngineConfig → EngineConfig → Prop
  | unset (written : EngineConfig) : Overrides .unset written written
  | notText (bytes : RawBytes) (written : EngineConfig) :
      Overrides (.notText bytes) written written
  | set {raw : String} {depth : Nat} (written : EngineConfig) (writes : WritesNumber raw depth)
      (least : 1 ≤ depth) (most : depth ≤ 16) :
      Overrides (.text raw) written { written with depth }

theorem Overrides.valid (overrides : Overrides found config outcome) (valid : config.Valid) :
    outcome.Valid := by
  cases overrides with
  | unset => exact valid
  | notText => exact valid
  | set _ _ least most => exact ⟨least, most, valid.marked⟩

def source (disk : Disk Id) (path? : Option String) : Except LoadError EngineConfig :=
  match path? with
  | some path => ofFile disk path
  | none => .ok usual

theorem load_eq (disk : Disk Id) (path? : Option String) (found : EnvironmentValue) :
    load disk path? found = (source disk path?).bind fun written =>
      ((written.override found).bind checked).mapError .fault := by
  cases path? <;> rfl

theorem ofFile_eq (disk : Disk Id) (path : String) : ofFile disk path =
    match disk.readText path with
    | .error cause => .error (.access cause)
    | .ok text => ((parse text).bind checked).mapError .fault := by
  rw [ofFile]
  cases disk.readText path <;> rfl

theorem valid_usual : usual.Valid where
  least := by decide
  most := by decide
  marked marker member := by
    obtain rfl := List.mem_singleton.mp member
    exact ⟨'s', by decide, by decide⟩

theorem mapError_eq_ok_iff {ε δ α : Type} {wrap : ε → δ} {first : Except ε α} {value : α} :
    first.mapError wrap = .ok value ↔ first = .ok value := by
  cases first with
  | error fault => exact ⟨nofun, nofun⟩
  | ok found => exact ⟨fun same => congrArg _ (Except.ok.inj same), fun same => same ▸ rfl⟩

theorem mapError_eq_fault_iff {α : Type} {first : Except ConfigFault α} {fault : ConfigFault} :
    first.mapError LoadError.fault = .error (.fault fault) ↔ first = .error fault := by
  cases first with
  | error found =>
      constructor
      · intro same
        rw [LoadError.fault.inj (Except.error.inj same)]
      · intro same
        rw [Except.error.inj same]
        rfl
  | ok value => exact ⟨nofun, nofun⟩

/-- The source is read well exactly if it gives a valid configuration. -/
theorem source_eq_ok_iff : source disk path? = .ok config ↔ Written disk path? config := by
  cases path? with
  | none =>
      constructor
      · intro loaded
        cases loaded
        exact @Written.intro disk none .nothing .nothing valid_usual
      · intro written
        cases written with
        | intro given valid =>
            cases given
            rfl
  | some path =>
      rw [source, ofFile_eq]
      constructor
      · intro loaded
        split at loaded
        · cases loaded
        · rename_i text content
          obtain ⟨found, read, passed⟩ :=
            Json.exists_of_bind_eq_ok (mapError_eq_ok_iff.mp loaded)
          obtain ⟨settings, gives, rfl⟩ := parse_eq_ok_iff.mp read
          obtain ⟨valid, rfl⟩ := checked_eq_ok_iff.mp passed
          exact .intro (.file content gives) valid
      · intro written
        cases written with
        | intro given valid =>
            cases given with
            | file content gives =>
                rw [content]
                dsimp only
                rw [parse_eq_ok_iff.mpr ⟨_, gives, rfl⟩, mapError_eq_ok_iff]
                exact checked_eq_ok_iff.mpr ⟨valid, rfl⟩

/-- What is wrong with a file is never put down to the environment. -/
theorem source_ne_notANumber (raw : String) :
    source disk path? ≠ .error (.fault (.depthNotANumber raw)) := by
  cases path? with
  | none => exact nofun
  | some path =>
      rw [source, ofFile_eq]
      split
      · exact nofun
      · rename_i text _
        rw [Ne, mapError_eq_fault_iff]
        cases read : parse text with
        | error fault =>
            rintro ⟨⟩
            unfold parse at read
            split at read
            · cases read
            · split at read <;> cases read
        | ok found => exact checked_ne_notANumber found raw

theorem override_of_writes (config : EngineConfig) {raw : String} {depth : Nat}
    (writes : WritesNumber raw depth) (small : depth < Nat.pow 2 64) :
    config.override (.text raw) = .ok { config with depth } := by
  rw [override, parseDepth?_eq_some_iff.mpr ⟨writes, small⟩]

theorem override_of_none (config : EngineConfig) {raw : String} (unread : parseDepth? raw = none) :
    config.override (.text raw) = .error (.depthNotANumber raw) := by
  rw [override, unread]

/-- A valid configuration stays valid with the depth from the environment exactly if this
depth is in range. -/
theorem override_checked_iff (valid : config.Valid) :
    (config.override found).bind checked = .ok outcome ↔ Overrides found config outcome := by
  have kept : checked config = .ok outcome ↔ config = outcome := by
    rw [checked_eq_ok_iff, and_iff_right valid]
  cases found with
  | unset =>
      refine kept.trans ⟨fun same => same ▸ .unset config, fun overrides => ?_⟩
      cases overrides
      rfl
  | notText bytes =>
      refine kept.trans ⟨fun same => same ▸ .notText bytes config, fun overrides => ?_⟩
      cases overrides
      rfl
  | text raw =>
      constructor
      · intro passed
        cases read : parseDepth? raw with
        | none =>
            rw [override_of_none config read] at passed
            cases passed
        | some depth =>
            obtain ⟨writes, small⟩ := parseDepth?_eq_some_iff.mp read
            rw [override_of_writes config writes small] at passed
            obtain ⟨within, rfl⟩ := checked_eq_ok_iff.mp passed
            exact .set config writes within.least within.most
      · intro overrides
        cases overrides with
        | set _ writes least most =>
            rw [override_of_writes config writes (Nat.lt_of_le_of_lt most (by decide))]
            exact checked_eq_ok_iff.mpr ⟨⟨least, most, valid.marked⟩, rfl⟩

theorem load_of_written (written : Written disk path? config) (found : EnvironmentValue) :
    load disk path? found = ((config.override found).bind checked).mapError .fault := by
  rw [load_eq, source_eq_ok_iff.mpr written]
  rfl

/-- What comes of loading a configuration from a file, or without one. -/
structure SoundAndComplete (disk : Disk Id) (path? : Option String) : Prop where
  /-- A configuration is loaded exactly if it is what is written and valid, with the depth of
  the environment, if a text is set there, which has to be in range. -/
  ok_iff : ∀ found config, load disk path? found = .ok config ↔
    ∃ written, Written disk path? written ∧ Overrides found written config
  /-- What is loaded is valid, and a resolver follows references as far as it says. -/
  valid : ∀ found config, load disk path? found = .ok config →
    config.Valid ∧ (Reach.Resolver.ofLimit config.depth).depth = config.depth
  /-- Any number of zeros may stand in front of the depth. -/
  zeros : ∀ written count depth, Written disk path? written → 1 ≤ depth → depth ≤ 16 →
    load disk path? (.text (String.ofList (List.replicate count '0' ++ Nat.toDigits 10 depth))) =
      .ok { written with depth }
  /-- The depth is refused as no number exactly if the environment writes none but one beyond
  64 bits. -/
  notANumber_iff : ∀ raw,
    load disk path? (.text raw) = .error (.fault (.depthNotANumber raw)) ↔
      (∃ written, Written disk path? written) ∧
        ∀ number, WritesNumber raw number → Nat.pow 2 64 ≤ number
  /-- Other signs, blanks inside and a text without digits are no number. -/
  malformed : ∀ written raw, Written disk path? written → Malformed raw →
    load disk path? (.text raw) = .error (.fault (.depthNotANumber raw))
  /-- Any other number is refused as it is written. -/
  outOfRange : ∀ written raw number, Written disk path? written → WritesNumber raw number →
    number < Nat.pow 2 64 → ¬ (1 ≤ number ∧ number ≤ 16) →
      load disk path? (.text raw) = .error (.fault (.depthOutOfRange number))

theorem load_eq_ok_iff : load disk path? found = .ok outcome ↔
    ∃ written, Written disk path? written ∧ Overrides found written outcome := by
  constructor
  · intro loaded
    rw [load_eq] at loaded
    obtain ⟨config, read, ended⟩ := Json.exists_of_bind_eq_ok loaded
    have written := source_eq_ok_iff.mp read
    exact ⟨config, written, (override_checked_iff written.valid).mp (mapError_eq_ok_iff.mp ended)⟩
  · rintro ⟨config, written, overrides⟩
    rw [load_of_written written, mapError_eq_ok_iff]
    exact (override_checked_iff written.valid).mpr overrides

theorem load_eq_notANumber_iff {raw : String} :
    load disk path? (.text raw) = .error (.fault (.depthNotANumber raw)) ↔
      (∃ written, Written disk path? written) ∧
        ∀ number, WritesNumber raw number → Nat.pow 2 64 ≤ number := by
  rw [← parseDepth?_eq_none_iff]
  constructor
  · intro refused
    cases read : source disk path? with
    | error error =>
        rw [load_eq, read] at refused
        cases refused
        exact absurd read (source_ne_notANumber raw)
    | ok config =>
        have written := source_eq_ok_iff.mp read
        refine ⟨⟨config, written⟩, ?_⟩
        cases taken : parseDepth? raw with
        | none => rfl
        | some depth =>
            obtain ⟨writes, small⟩ := parseDepth?_eq_some_iff.mp taken
            rw [load_of_written written, override_of_writes config writes small,
              mapError_eq_fault_iff] at refused
            exact absurd refused (checked_ne_notANumber _ raw)
  · rintro ⟨⟨config, written⟩, unread⟩
    rw [load_of_written written, override_of_none config unread]
    rfl

/-- Nothing invalid is loaded and nothing valid is refused, whatever stands in the file and
in the environment, as far as it is text. -/
theorem load_sound_and_complete (disk : Disk Id) (path? : Option String) :
    SoundAndComplete disk path? where
  ok_iff _ _ := load_eq_ok_iff
  valid := by
    intro found config loaded
    obtain ⟨written, isWritten, overrides⟩ := load_eq_ok_iff.mp loaded
    have valid := overrides.valid isWritten.valid
    exact ⟨valid, Nat.max_eq_left valid.least⟩
  zeros written count depth isWritten least most :=
    load_eq_ok_iff.mpr
      ⟨written, isWritten, .set written (writesNumber_toDigits count depth) least most⟩
  notANumber_iff _ := load_eq_notANumber_iff
  malformed written raw isWritten malformed :=
    load_eq_notANumber_iff.mpr
      ⟨⟨written, isWritten⟩, fun number writes => absurd writes (malformed.not_writesNumber number)⟩
  outOfRange := by
    intro written raw number isWritten writes small beyond
    rw [load_of_written isWritten, override_of_writes written writes small,
      mapError_eq_fault_iff]
    exact checked_of_beyond beyond

/-- Bytes are set for the depth that are no text, so write no number, and yet the usual
configuration is loaded. -/
theorem notText_overlooked :
    let bytes : RawBytes := ⟨[0x35, 0xFF], by decide⟩
    (∀ raw depth, WritesNumber raw depth → raw.toUTF8 ≠ bytes.bytes.toByteArray) ∧
      (load (FileTree.empty.disk "/") none (.notText bytes)).run = .ok usual := by
  intro bytes
  refine ⟨fun raw depth _ same => bytes.notText ?_, by decide +kernel⟩
  rw [← same]
  exact raw.isValidUTF8

end TestImpact.EngineConfig
