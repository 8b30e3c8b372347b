import TestImpact.Affected.Impact
import TestImpact.EngineConfig
import TestImpact.Proofs.Json.Record
import TestImpact.SymbolGraph.Source
import TestImpact.Testing.RunConfig

/-!
# What is written is read back

Snapshots, tests, settings, suites, impacts and configurations are records of fields that
are read back, so each of them is read back as a whole, as long as its numbers fit into 64
bits. Everything that is read has such numbers and may be written and read again. A
configuration is also read back where its text might have been TOML, and a snapshot file
gives the graph of the snapshot that was written to it.
-/

namespace TestImpact

open Json Listing Testing

/-- Codecs that read back what they write for values of a form, and for all they read. -/
structure Json.Codec.RoundTrips {α : Type} (codec : Codec α) (Fits : α → Prop) : Prop where
  decode_encode : ∀ value, Fits value → codec.decode (codec.encode value) = .ok value
  encode_decoded : ∀ text value, codec.decode text = .ok value →
    codec.decode (codec.encode value) = .ok value

theorem Json.Codec.Faithful.roundTrips {α : Type} {codec : Codec α} {Fits : α → Prop}
    (faithful : codec.Faithful Fits) : codec.RoundTrips Fits where
  decode_encode _ := faithful.decode_encode
  encode_decoded _ _ decoded := faithful.decode_encode (faithful.fits_of_decode decoded)

/-- Dictionaries of values that are always read back are always read back. -/
theorem Json.Codec.Faithful.dictionaryOfAll {α : Type} {codec : Codec α}
    (faithful : codec.Faithful fun _ => True) :
    (dictionaryCodec codec).Faithful fun _ => True :=
  faithful.dictionary.congr (by simp)

theorem SymbolKind.faithful_codec : SymbolKind.codec.Faithful fun _ => True :=
  faithful_choiceCodec ofName?_name

theorem ReferenceKind.faithful_codec : ReferenceKind.codec.Faithful fun _ => True :=
  faithful_choiceCodec ofName?_name

namespace Symbol

def Fits (symbol : Symbol) : Prop := symbol.line < Nat.pow 2 64

theorem faithful_codec : codec.Faithful Fits := by
  apply faithful_recordCodec
  · decide
  · exact Nat.pow_pos (by decide)
  · simp only [fields, List.forall_mem_cons]
    refine ⟨Field.keeps_required faithful_textCodec fun _ _ _ fits => fits,
      Field.keeps_defaulted faithful_textCodec fun _ _ _ fits => fits,
      Field.keeps_defaulted SymbolKind.faithful_codec fun _ _ _ fits => fits,
      Field.keeps_required faithful_textCodec fun _ _ _ fits => fits,
      Field.keeps_defaulted faithful_naturalCodec fun _ _ small _ => small, by simp⟩
  · intro whole fits
    apply Restores.required faithful_textCodec trivial
    apply Restores.defaulted faithful_textCodec trivial
    apply Restores.defaulted SymbolKind.faithful_codec trivial
    apply Restores.required faithful_textCodec trivial
    apply Restores.defaulted faithful_naturalCodec fits
    exact .done whole

end Symbol

theorem Reference.faithful_codec : Reference.codec.Faithful fun _ => True := by
  apply faithful_recordCodec
  · decide
  · trivial
  · exact fun field _ => field.keeps_true
  · intro whole _
    apply Restores.required faithful_textCodec trivial
    apply Restores.required faithful_textCodec trivial
    apply Restores.defaulted ReferenceKind.faithful_codec trivial
    exact .done whole

namespace Snapshot

def Fits (snapshot : Snapshot) : Prop := ∀ symbol ∈ snapshot.symbols, symbol.Fits

theorem faithful_codec : codec.Faithful Fits := by
  apply faithful_recordCodec
  · decide
  · exact fun _ member => absurd member List.not_mem_nil
  · simp only [fields, List.forall_mem_cons]
    refine ⟨Field.keeps_defaulted Symbol.faithful_codec.list fun _ _ all _ => all,
      Field.keeps_defaulted Reference.faithful_codec.list fun _ _ _ fits => fits, by simp⟩
  · intro whole fits
    apply Restores.defaulted Symbol.faithful_codec.list fits
    apply Restores.defaulted Reference.faithful_codec.list fun _ _ => trivial
    exact .done whole

end Snapshot

namespace Testing

theorem TestKind.faithful_codec : TestKind.codec.Faithful fun _ => True :=
  faithful_choiceCodec fun kind => congrArg some (ofName_name kind)

theorem Scope.faithful_codec : Scope.codec.Faithful fun _ => True :=
  faithful_choiceCodec ofName?_name

theorem Test.faithful_codec : Test.codec.Faithful fun _ => True := by
  apply faithful_recordCodec
  · decide
  · trivial
  · exact fun field _ => field.keeps_true
  · intro whole _
    apply Restores.required faithful_textCodec trivial
    apply Restores.defaulted faithful_textCodec trivial
    apply Restores.defaulted TestKind.faithful_codec trivial
    apply Restores.omitted faithful_textsCodec trivial List.isEmpty_iff.mp rfl
    apply Restores.omitted faithful_textCodec.dictionaryOfAll trivial Dictionary.eq_empty rfl
    exact .done whole

namespace RunConfig

def Fits (config : RunConfig) : Prop := ∀ timeout ∈ config.timeout, timeout < Nat.pow 2 64

/-- Times that may be missing are read back: no number is written like a missing one. -/
theorem faithful_timeout : (optionalCodec naturalCodec).Faithful fun timeout? =>
    ∀ timeout ∈ timeout?, timeout < Nat.pow 2 64 := by
  apply faithful_naturalCodec.optional
  intro value rest written
  obtain ⟨first, more, digits, digit⟩ := exists_toDigits_eq_cons value
  obtain ⟨rfl, _⟩ := List.cons.inj (digits.symm.trans written)
  cases digit

theorem faithful_codec : codec.Faithful Fits := by
  apply faithful_recordCodec
  · decide
  · exact fun _ member => by cases member
  · simp only [fields, List.forall_mem_cons]
    refine ⟨Field.keeps_required faithful_textCodec fun _ _ _ fits => fits,
      Field.keeps_required faithful_textCodec fun _ _ _ fits => fits,
      Field.keeps_defaulted Scope.faithful_codec fun _ _ _ fits => fits,
      Field.keeps_defaulted faithful_flagCodec fun _ _ _ fits => fits,
      Field.keeps_defaulted faithful_timeout fun _ _ small _ => small,
      Field.keeps_defaulted faithful_flagCodec fun _ _ _ fits => fits,
      Field.keeps_defaulted faithful_flagCodec fun _ _ _ fits => fits,
      Field.keeps_omitted faithful_textCodec.dictionaryOfAll fun _ _ _ fits => fits,
      Field.keeps_omitted faithful_textsCodec fun _ _ _ fits => fits,
      Field.keeps_omitted faithful_textsCodec fun _ _ _ fits => fits, by simp⟩
  · intro whole fits
    apply Restores.required faithful_textCodec trivial
    apply Restores.required faithful_textCodec trivial
    apply Restores.defaulted Scope.faithful_codec trivial
    apply Restores.defaulted faithful_flagCodec trivial
    apply Restores.defaulted faithful_timeout fits
    apply Restores.defaulted faithful_flagCodec trivial
    apply Restores.defaulted faithful_flagCodec trivial
    apply Restores.omitted faithful_textCodec.dictionaryOfAll trivial Dictionary.eq_empty rfl
    apply Restores.omitted faithful_textsCodec trivial List.isEmpty_iff.mp rfl
    apply Restores.omitted faithful_textsCodec trivial List.isEmpty_iff.mp rfl
    exact .done whole

end RunConfig

namespace Suite

def Fits (suite : Suite) : Prop := ∀ config ∈ suite.config, config.Fits

/-- Settings that may be missing are read back: a record is not written like a missing one. -/
theorem faithful_config : (optionalCodec RunConfig.codec).Faithful fun config? =>
    ∀ config ∈ config?, config.Fits := by
  apply RunConfig.faithful_codec.optional
  intro config rest written
  rw [RunConfig.codec, recordCodec, compact] at written
  cases written

theorem faithful_codec : codec.Faithful Fits := by
  apply faithful_recordCodec
  · decide
  · exact fun _ member => by cases member
  · simp only [fields, List.forall_mem_cons]
    refine ⟨Field.keeps_required faithful_textCodec fun _ _ _ fits => fits,
      Field.keeps_required faithful_textCodec fun _ _ _ fits => fits,
      Field.keeps_required faithful_textCodec fun _ _ _ fits => fits,
      Field.keeps_required Test.faithful_codec.list fun _ _ _ fits => fits,
      Field.keeps_omitted faithful_config fun _ _ all _ => all, by simp⟩
  · intro whole fits
    apply Restores.required faithful_textCodec trivial
    apply Restores.required faithful_textCodec trivial
    apply Restores.required faithful_textCodec trivial
    apply Restores.required Test.faithful_codec.list fun _ _ => trivial
    apply Restores.omitted faithful_config fits Option.isNone_iff_eq_none.mp rfl
    exact .done whole

end Suite

end Testing

theorem Impact.faithful_codec : Impact.codec.Faithful fun _ => True := by
  apply faithful_recordCodec
  · decide
  · trivial
  · exact fun field _ => field.keeps_true
  · intro whole _
    apply Restores.required faithful_textsCodec trivial
    apply Restores.required faithful_textsCodec trivial
    apply Restores.required faithful_textsCodec.dictionaryOfAll trivial
    apply Restores.required faithful_textsCodec.dictionaryOfAll trivial
    exact .done whole

namespace EngineConfig

/-- Whether the numbers fit into 64 bits. -/
structure Fits (config : EngineConfig) : Prop where
  depth : config.depth < Nat.pow 2 64
  smokeTimeout : config.smokeTimeout < Nat.pow 2 64
  unitTimeout : config.unitTimeout < Nat.pow 2 64
  integrationTimeout : config.integrationTimeout < Nat.pow 2 64

theorem fits_usual : usual.Fits := by
  constructor <;> decide

theorem faithful_codec : codec.Faithful Fits := by
  apply faithful_recordCodec
  · decide
  · exact fits_usual
  · simp only [fields, List.forall_mem_cons]
    refine ⟨Field.keeps_defaulted faithful_naturalCodec fun _ _ small fits =>
        { fits with depth := small },
      Field.keeps_defaulted faithful_textsCodec fun _ _ _ fits => { fits with },
      Field.keeps_defaulted faithful_naturalCodec fun _ _ small fits =>
        { fits with smokeTimeout := small },
      Field.keeps_defaulted faithful_naturalCodec fun _ _ small fits =>
        { fits with unitTimeout := small },
      Field.keeps_defaulted faithful_naturalCodec fun _ _ small fits =>
        { fits with integrationTimeout := small }, by simp⟩
  · intro whole fits
    apply Restores.defaulted faithful_naturalCodec fits.depth
    apply Restores.defaulted faithful_textsCodec trivial
    apply Restores.defaulted faithful_naturalCodec fits.smokeTimeout
    apply Restores.defaulted faithful_naturalCodec fits.unitTimeout
    apply Restores.defaulted faithful_naturalCodec fits.integrationTimeout
    exact .done whole

theorem parse_encode {config : EngineConfig} (fits : config.Fits) :
    parse (codec.encode config) = .ok config := by
  rw [parse, faithful_codec.decode_encode fits]

theorem lt_of_natural? {node : Toml.Node} {value : Nat} (read : natural? node = some value) :
    value < Nat.pow 2 64 := by
  unfold natural? at read
  split at read
  · rename_i number
    have high := number.high
    have large : Nat.pow 2 63 < Nat.pow 2 64 := by decide
    split at read
    · cases read
      omega
    · cases read
  · cases read

theorem lt_of_entry_read {entries : Toml.Entries} {key : String} {default value : Nat}
    (small : default < Nat.pow 2 64) (read : entry? natural? entries key default = some value) :
    value < Nat.pow 2 64 := by
  unfold entry? at read
  split at read
  · cases read
    exact small
  · exact lt_of_natural? read

/-- Configurations from the tables of a document fit as well. -/
theorem fits_of_ofTables? {entries : Toml.Entries} {config : EngineConfig}
    (read : ofTables? entries = some config) : config.Fits := by
  obtain ⟨depth, depthRead, read⟩ := Option.bind_eq_some_iff.mp read
  obtain ⟨markers, _, read⟩ := Option.bind_eq_some_iff.mp read
  obtain ⟨smoke, smokeRead, read⟩ := Option.bind_eq_some_iff.mp read
  obtain ⟨unit, unitRead, read⟩ := Option.bind_eq_some_iff.mp read
  obtain ⟨integration, integrationRead, read⟩ := Option.bind_eq_some_iff.mp read
  cases read
  exact ⟨lt_of_entry_read fits_usual.depth depthRead, lt_of_entry_read fits_usual.smokeTimeout smokeRead,
    lt_of_entry_read fits_usual.unitTimeout unitRead,
    lt_of_entry_read fits_usual.integrationTimeout integrationRead⟩

/-- Whatever format a configuration is read from, it fits. -/
theorem fits_of_parse {text : String} {config : EngineConfig} (read : parse text = .ok config) :
    config.Fits := by
  unfold parse at read
  split at read
  · rename_i decoded
    cases read
    exact faithful_codec.fits_of_decode decoded
  · split at read
    · rename_i found
      cases read
      obtain ⟨entries, _, ofTables⟩ := Option.bind_eq_some_iff.mp found
      exact fits_of_ofTables? ofTables
    · cases read

end EngineConfig

/-- A file that holds a written snapshot gives the graph of this snapshot. -/
theorem SnapshotFile.load_encode {m : Type → Type} [Monad m] [LawfulMonad m] {disk : Disk m}
    {file : SnapshotFile} {project : String} {snapshot : Snapshot} (fits : snapshot.Fits)
    (holds : disk.readText (file.pathIn project) = pure (.ok (Snapshot.codec.encode snapshot))) :
    file.load disk project = pure (.ok (.ofSnapshot snapshot)) := by
  rw [load, holds, pure_bind]
  dsimp only
  rw [Snapshot.parse, Snapshot.faithful_codec.decode_encode fits]
  rfl

/-- Whatever is written with numbers of 64 bits is read back, and whatever is read can be
written and read again; configurations also where the format is found out, and snapshots
through the file of a project. -/
theorem written_values_read_back :
    Snapshot.codec.RoundTrips Snapshot.Fits ∧ Test.codec.RoundTrips (fun _ => True) ∧
      RunConfig.codec.RoundTrips RunConfig.Fits ∧ Suite.codec.RoundTrips Suite.Fits ∧
      Impact.codec.RoundTrips (fun _ => True) ∧ EngineConfig.codec.RoundTrips EngineConfig.Fits ∧
      (∀ config, config.Fits → EngineConfig.parse (EngineConfig.codec.encode config) = .ok config) ∧
      (∀ text config, EngineConfig.parse text = .ok config →
        EngineConfig.parse (EngineConfig.codec.encode config) = .ok config) ∧
      ∀ (m : Type → Type) [Monad m] [LawfulMonad m] (disk : Disk m) (file : SnapshotFile)
        (project : String) (snapshot : Snapshot), snapshot.Fits →
        disk.readText (file.pathIn project) = pure (.ok (Snapshot.codec.encode snapshot)) →
          file.load disk project = pure (.ok (.ofSnapshot snapshot)) :=
  ⟨Snapshot.faithful_codec.roundTrips, Test.faithful_codec.roundTrips,
    RunConfig.faithful_codec.roundTrips, Suite.faithful_codec.roundTrips,
    Impact.faithful_codec.roundTrips, EngineConfig.faithful_codec.roundTrips,
    fun _ => EngineConfig.parse_encode,
    fun _ _ read => EngineConfig.parse_encode (EngineConfig.fits_of_parse read),
    fun _ _ _ _ _ _ _ => SnapshotFile.load_encode⟩

/-- The largest number, and an id with a mark, a line break, a control character and a letter
beyond the first. -/
theorem written_values_read_back_extreme :
    let snapshot : Snapshot :=
      ⟨[⟨"\"\n\x01ß", "", .importName, "a.go", 18446744073709551615⟩], [⟨"a", "b", .dependsOn⟩]⟩
    let config : EngineConfig := ⟨18446744073709551615, ["", "a\\"], 0, 1, 10⟩
    snapshot.Fits ∧ config.Fits ∧
      Snapshot.codec.encode snapshot =
        "\x7b\"nodes\":[\x7b\"id\":\"\\\"\\n\\u0001ß\",\"name\":\"\",\"type\":\"import\"," ++
        "\"path\":\"a.go\",\"line\":18446744073709551615\x7d]," ++
        "\"edges\":[\x7b\"from\":\"a\",\"to\":\"b\",\"type\":\"depends_on\"\x7d]\x7d" ∧
      Snapshot.codec.decode (Snapshot.codec.encode snapshot) = .ok snapshot ∧
      EngineConfig.parse (EngineConfig.codec.encode config) = .ok config := by
  intro snapshot config
  have fits : snapshot.Fits := by
    intro symbol member
    obtain rfl := List.mem_singleton.mp member
    exact (by decide : 18446744073709551615 < Nat.pow 2 64)
  have fitting : config.Fits := by
    constructor <;> decide
  obtain ⟨snapshots, _, _, _, _, _, parsed, _⟩ := written_values_read_back
  exact ⟨fits, fitting, by cbv, snapshots.decode_encode snapshot fits, parsed config fitting⟩

end TestImpact
