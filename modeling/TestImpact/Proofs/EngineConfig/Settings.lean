import TestImpact.EngineConfig
import TestImpact.Proofs.Json.Record

/-!
# The settings that a text gives

A text gives some settings of a configuration, in JSON or in TOML, and leaves out others.
What it leaves out has its default, whatever the defaults are: what is read from a text
does not depend on the configuration that it is put into.
-/

namespace TestImpact.EngineConfig

/-- The settings that are given, each of them or none. -/
structure Settings where
  depth : Option Nat
  markers : Option (List String)
  smokeTimeout : Option Nat
  unitTimeout : Option Nat
  integrationTimeout : Option Nat

def Settings.nothing : Settings := ⟨none, none, none, none, none⟩

def Settings.over (settings : Settings) (base : EngineConfig) : EngineConfig where
  depth := settings.depth.getD base.depth
  markers := settings.markers.getD base.markers
  smokeTimeout := settings.smokeTimeout.getD base.smokeTimeout
  unitTimeout := settings.unitTimeout.getD base.unitTimeout
  integrationTimeout := settings.integrationTimeout.getD base.integrationTimeout

/-- What stands under a key: nothing, or a value of the right form. -/
inductive Under {α : Type} (read : Toml.Node → Option α) (entries : Toml.Entries)
    (key : String) : Option α → Prop
  | missing (absent : entries.lookup key = none) : Under read entries key none
  | given {node : Toml.Node} {value : α} (stands : entries.lookup key = some node)
      (reads : read node = some value) : Under read entries key (some value)

theorem read_entry_iff {α : Type} {read : Toml.Node → Option α} {entries : Toml.Entries}
    {key : String} {default value : α} : entry? read entries key default = some value ↔
      ∃ given, Under read entries key given ∧ given.getD default = value := by
  constructor
  · intro found
    unfold entry? at found
    split at found
    · rename_i absent
      exact ⟨none, .missing absent, Option.some.inj found⟩
    · rename_i node stands
      exact ⟨some value, .given stands found, rfl⟩
  · rintro ⟨_, under, rfl⟩
    unfold entry?
    cases under with
    | missing absent => rw [absent, Option.getD_none]
    | given stands reads =>
        rw [stands, Option.getD_some]
        exact reads

/-- The settings that the tables of a document give. -/
structure TablesGive (entries : Toml.Entries) (settings : Settings) : Prop where
  depth : Under natural? entries "max_dependency_depth" settings.depth
  markers : Under texts? entries "smoke_markers" settings.markers
  smokeTimeout : Under natural? entries "smoke_timeout_secs" settings.smokeTimeout
  unitTimeout : Under natural? entries "unit_timeout_secs" settings.unitTimeout
  integrationTimeout :
    Under natural? entries "integration_timeout_secs" settings.integrationTimeout

/-- What is read off the tables is what they give, over the defaults. -/
theorem ofTables?_eq_some_iff {entries : Toml.Entries} {config : EngineConfig} :
    ofTables? entries = some config ↔
      ∃ settings, TablesGive entries settings ∧ settings.over usual = config := by
  constructor
  · intro read
    obtain ⟨_, depthRead, read⟩ := Option.bind_eq_some_iff.mp read
    obtain ⟨_, markersRead, read⟩ := Option.bind_eq_some_iff.mp read
    obtain ⟨_, smokeRead, read⟩ := Option.bind_eq_some_iff.mp read
    obtain ⟨_, unitRead, read⟩ := Option.bind_eq_some_iff.mp read
    obtain ⟨_, integrationRead, read⟩ := Option.bind_eq_some_iff.mp read
    obtain ⟨depth, depthUnder, rfl⟩ := read_entry_iff.mp depthRead
    obtain ⟨markers, markersUnder, rfl⟩ := read_entry_iff.mp markersRead
    obtain ⟨smoke, smokeUnder, rfl⟩ := read_entry_iff.mp smokeRead
    obtain ⟨unit, unitUnder, rfl⟩ := read_entry_iff.mp unitRead
    obtain ⟨integration, integrationUnder, rfl⟩ := read_entry_iff.mp integrationRead
    exact ⟨⟨depth, markers, smoke, unit, integration⟩,
      ⟨depthUnder, markersUnder, smokeUnder, unitUnder, integrationUnder⟩, Option.some.inj read⟩
  · rintro ⟨settings, gives, rfl⟩
    unfold ofTables?
    rw [read_entry_iff.mpr ⟨_, gives.depth, rfl⟩,
      read_entry_iff.mpr ⟨_, gives.markers, rfl⟩,
      read_entry_iff.mpr ⟨_, gives.smokeTimeout, rfl⟩,
      read_entry_iff.mpr ⟨_, gives.unitTimeout, rfl⟩,
      read_entry_iff.mpr ⟨_, gives.integrationTimeout, rfl⟩]
    rfl

/-- One configuration for each choice of defaults, with the same settings over them. -/
def Alike (configs : EngineConfig → EngineConfig) : Prop :=
  ∃ settings : Settings, configs = settings.over

/-- Reading one field gives one more setting, whatever the defaults are. -/
theorem carries_fields : ∀ field ∈ fields, field.Carries Alike := by
  simp only [fields, List.forall_mem_cons]
  refine ⟨Json.Field.carries_defaulted ?_, Json.Field.carries_defaulted ?_,
    Json.Field.carries_defaulted ?_, Json.Field.carries_defaulted ?_,
    Json.Field.carries_defaulted ?_, by simp⟩
  · rintro value _ ⟨settings, rfl⟩
    exact ⟨{ settings with depth := some value }, rfl⟩
  · rintro value _ ⟨settings, rfl⟩
    exact ⟨{ settings with markers := some value }, rfl⟩
  · rintro value _ ⟨settings, rfl⟩
    exact ⟨{ settings with smokeTimeout := some value }, rfl⟩
  · rintro value _ ⟨settings, rfl⟩
    exact ⟨{ settings with unitTimeout := some value }, rfl⟩
  · rintro value _ ⟨settings, rfl⟩
    exact ⟨{ settings with integrationTimeout := some value }, rfl⟩

/-- A JSON text gives the same settings whatever it is read into. -/
theorem exists_settings_of_decode {text : String} {config : EngineConfig}
    (decoded : codec.decode text = .ok config) :
    ∃ settings : Settings, settings.over usual = config ∧ ∀ defaults,
      (Json.recordCodec fields defaults).decode text = .ok (settings.over defaults) := by
  obtain ⟨⟨found, rest⟩, read, ended⟩ := Json.exists_of_bind_eq_ok decoded
  have start : Alike fun defaults => defaults := ⟨.nothing, rfl⟩
  obtain ⟨_, ⟨settings, rfl⟩, here, all⟩ :=
    @Json.carries_readRecord EngineConfig EngineConfig Alike fields (fun defaults => defaults)
      usual carries_fields found text.toList rest start read
  dsimp only at ended
  split at ended
  · rename_i complete
    cases ended
    refine ⟨settings, here, fun defaults => ?_⟩
    change (Json.readRecord fields defaults text.toList >>= _) = _
    rw [all defaults]
    exact if_pos complete
  · cases ended

/-- The settings that a text gives. -/
inductive Gives (text : String) (settings : Settings) : Prop
  /-- Whatever the defaults are, the text is read as the settings over them. -/
  | json (reads : ∀ defaults,
      (Json.recordCodec fields defaults).decode text = .ok (settings.over defaults))
  | toml {fault : Json.Fault} {entries : Toml.Entries}
      (otherwise : codec.decode text = .error fault) (document : Toml.parse text = some entries)
      (tables : TablesGive entries settings)

/-- What is read from a text is what the text gives, over the defaults. -/
theorem parse_eq_ok_iff {text : String} {config : EngineConfig} :
    parse text = .ok config ↔ ∃ settings, Gives text settings ∧ settings.over usual = config := by
  constructor
  · intro read
    unfold parse at read
    split at read
    · rename_i decoded
      cases read
      obtain ⟨settings, same, reads⟩ := exists_settings_of_decode decoded
      exact ⟨settings, .json reads, same⟩
    · rename_i fault otherwise
      split at read
      · rename_i found
        cases read
        obtain ⟨entries, document, tables⟩ := Option.bind_eq_some_iff.mp found
        obtain ⟨settings, gives, same⟩ := ofTables?_eq_some_iff.mp tables
        exact ⟨settings, .toml otherwise document gives, same⟩
      · cases read
  · rintro ⟨settings, gives, rfl⟩
    rw [parse]
    cases gives with
    | json reads =>
        have decoded : codec.decode text = .ok (settings.over usual) := reads usual
        rw [decoded]
    | toml otherwise document tables =>
        have found := ofTables?_eq_some_iff.mpr ⟨settings, tables, rfl⟩
        rw [otherwise, document]
        dsimp only [bind, Option.bind]
        rw [found]

end TestImpact.EngineConfig
