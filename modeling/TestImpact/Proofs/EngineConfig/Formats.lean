import Mathlib.Data.List.Nodup
import Mathlib.Data.List.Perm.Basic
import TestImpact.Proofs.EngineConfig.Settings
import TestImpact.Proofs.Json.Spelling
import TestImpact.Proofs.Toml.Rows

/-!
# The same settings in both formats

Any of the settings, in any order, may be written as the members of a record in JSON or as
the lines of a document in TOML. However they are spelled there, both texts give the same
configuration.
-/

namespace TestImpact.EngineConfig

open Text (Enclosed Quotes)

def keys : List String :=
  ["max_dependency_depth", "smoke_markers", "smoke_timeout_secs", "unit_timeout_secs",
    "integration_timeout_secs"]

/-- A setting with its value. -/
inductive Setting where
  | depth (value : Nat)
  | markers (values : List String)
  | smokeTimeout (value : Nat)
  | unitTimeout (value : Nat)
  | integrationTimeout (value : Nat)

namespace Setting

def key : Setting → String
  | depth _ => "max_dependency_depth"
  | markers _ => "smoke_markers"
  | smokeTimeout _ => "smoke_timeout_secs"
  | unitTimeout _ => "unit_timeout_secs"
  | integrationTimeout _ => "integration_timeout_secs"

theorem key_mem_keys (setting : Setting) : setting.key ∈ keys := by
  cases setting <;> simp [key, keys]

def put : Setting → EngineConfig → EngineConfig
  | depth value, config => { config with depth := value }
  | markers values, config => { config with markers := values }
  | smokeTimeout value, config => { config with smokeTimeout := value }
  | unitTimeout value, config => { config with unitTimeout := value }
  | integrationTimeout value, config => { config with integrationTimeout := value }

def On {α : Type} (number : Nat → α) (texts : List String → α) : Setting → α
  | depth value => number value
  | markers values => texts values
  | smokeTimeout value => number value
  | unitTimeout value => number value
  | integrationTimeout value => number value

def Fits : Setting → Prop := On (· < Nat.pow 2 63) fun _ => True

def InJson : Setting → List Char → Prop :=
  On Json.SpellsNatural (Enclosed Json.blanks '[' ']' (Quotes Json.SpellsChar))

def InToml : Setting → List Char → Prop :=
  On Toml.SpellsNatural (Enclosed Toml.blanks '[' ']' (Quotes Toml.SpellsChar))

def StandsFor : Setting → Toml.Node → Prop :=
  On Toml.StandsForNatural (Toml.StandsForList Toml.StandsForText)

theorem put_put {first second : Setting} (differ : first.key ≠ second.key)
    (config : EngineConfig) : second.put (first.put config) = first.put (second.put config) := by
  cases first <;> cases second <;> first | rfl | exact absurd rfl differ

end Setting

namespace Settings

def members (settings : Settings) : List Setting :=
  (settings.depth.map .depth).toList ++ (settings.markers.map .markers).toList ++
    (settings.smokeTimeout.map .smokeTimeout).toList ++
    (settings.unitTimeout.map .unitTimeout).toList ++
    (settings.integrationTimeout.map .integrationTimeout).toList

def Has (settings : Settings) : Setting → Prop
  | .depth value => settings.depth = some value
  | .markers values => settings.markers = some values
  | .smokeTimeout value => settings.smokeTimeout = some value
  | .unitTimeout value => settings.unitTimeout = some value
  | .integrationTimeout value => settings.integrationTimeout = some value

theorem mem_members_iff {settings : Settings} {setting : Setting} :
    setting ∈ settings.members ↔ settings.Has setting := by
  cases setting <;> simp [members, Has, eq_comm]

/-- No key is given twice. -/
theorem nodup_members (settings : Settings) : (settings.members.map Setting.key).Nodup := by
  have whole : keys.Nodup := by decide
  have part {α : Type} (setting : α → Setting) {key : String}
      (keyed : ∀ value, (setting value).key = key) (value? : Option α) :
      ((value?.map setting).toList.map Setting.key).Sublist [key] := by
    cases value? with
    | none => exact List.nil_sublist _
    | some value => simp [keyed]
  refine List.Nodup.sublist ?_ whole
  simp only [members, List.map_append]
  exact ((((part .depth (fun _ => rfl) _).append (part .markers (fun _ => rfl) _)).append
    (part .smokeTimeout (fun _ => rfl) _)).append (part .unitTimeout (fun _ => rfl) _)).append
      (part .integrationTimeout (fun _ => rfl) _)

theorem foldl_members (settings : Settings) (base : EngineConfig) :
    settings.members.foldl (fun config setting => setting.put config) base = settings.over base := by
  obtain ⟨_ | _, _ | _, _ | _, _ | _, _ | _⟩ := settings <;> rfl

/-- The settings may be put into a configuration in any order. -/
theorem foldl_perm {settings : Settings} {order : List Setting}
    (reordered : order.Perm settings.members) (base : EngineConfig) :
    order.foldl (fun config setting => setting.put config) base = settings.over base := by
  rw [← foldl_members]
  apply reordered.foldl_eq'
  intro first among second amongToo config
  by_cases same : first.key = second.key
  · have distinct := (reordered.map Setting.key).nodup_iff.mpr settings.nodup_members
    rw [List.inj_on_of_nodup_map distinct among amongToo same]
  · exact Setting.put_put same config

end Settings

section Json

/-- Every setting has a field that takes in its value in any spelling. -/
theorem takesIn_fields : Json.TakesIn fields Setting.key Setting.InJson Setting.put where
  optional := by simp [fields, Json.Field.defaulted]
  finds setting := by
    have number : Json.Reads Json.naturalCodec.read Json.SpellsNatural := Json.reads_readNatural
    have texts : Json.Reads Json.textsCodec.read
        (Enclosed Json.blanks '[' ']' (Quotes Json.SpellsChar)) := Json.reads_readText.list
    cases setting with
    | depth value => exact ⟨_, rfl, number.takes_defaulted value⟩
    | markers values => exact ⟨_, rfl, texts.takes_defaulted values⟩
    | smokeTimeout value => exact ⟨_, rfl, number.takes_defaulted value⟩
    | unitTimeout value => exact ⟨_, rfl, number.takes_defaulted value⟩
    | integrationTimeout value => exact ⟨_, rfl, number.takes_defaulted value⟩

def SpellsJson : List Setting → List Char → Prop := Json.SpellsRecord Setting.key Setting.InJson

theorem gives_of_spellsJson {settings : Settings} {order : List Setting}
    (reordered : order.Perm settings.members) {text : String}
    (spelled : SpellsJson order text.toList) : Gives text settings := by
  refine .json fun defaults => ?_
  have distinct := (reordered.map Setting.key).nodup_iff.mpr settings.nodup_members
  rw [Json.decode_spelled takesIn_fields spelled distinct, Settings.foldl_perm reordered]

end Json

section Toml

theorem reads_setting :
    Toml.Reads (Toml.readValue (Toml.nestingLimit + 1)) Setting.InToml Setting.StandsFor := by
  have number := Toml.reads_natural Toml.nestingLimit
  have texts : Toml.Reads (Toml.readValue (Toml.nestingLimit + 1)) _ _ :=
    (Toml.reads_text (Toml.nestingLimit - 1)).list
  constructor
  · intro setting text spelled
    cases setting with
    | markers values => exact texts.opens spelled
    | depth value | smokeTimeout value | unitTimeout value | integrationTimeout value =>
        exact number.opens spelled
  · intro setting text rest spelled follows
    cases setting with
    | markers values => exact texts.reads spelled follows
    | depth value | smokeTimeout value | unitTimeout value | integrationTimeout value =>
        exact number.reads spelled follows

theorem isBare_key (setting : Setting) : Toml.IsBare setting.key.toList := by
  have each : ∀ key ∈ keys, key.toList ≠ [] ∧ key.toList.all Toml.isBareChar = true := by decide
  obtain ⟨filled, all⟩ := each setting.key setting.key_mem_keys
  exact ⟨filled, List.all_eq_true.mp all⟩

theorem natural?_of_standsFor {value : Nat} {node : Toml.Node}
    (stands : Toml.StandsForNatural value node) : natural? node = some value := by
  obtain ⟨small, rfl⟩ := stands
  simp [natural?, Toml.Signed64.ofNat]

theorem texts?_of_standsFor {values : List String} {node : Toml.Node}
    (stands : Toml.StandsForList Toml.StandsForText values node) : texts? node = some values := by
  obtain ⟨nodes, each, rfl⟩ := stands
  rw [texts?]
  induction each with
  | nil => rfl
  | cons first _ ih =>
      obtain rfl := first
      rw [List.mapM_cons, ih]
      rfl

/-- A TOML document with a line for each of the given settings, in their order. -/
def SpellsToml : List Setting → List Char → Prop := Toml.SpellsRows Setting.key Setting.InToml

variable {settings : Settings} {order : List Setting}

theorem tablesGive_of_holds (reordered : order.Perm settings.members) {entries : Toml.Entries}
    (holds : Toml.Holds Setting.key Setting.StandsFor order entries) :
    TablesGive entries settings := by
  have distinct := (reordered.map Setting.key).nodup_iff.mpr settings.nodup_members
  have under {α : Type} {read : Toml.Node → Option α} {key : String} {value? : Option α}
      (setting : α → Setting) (keyed : ∀ value, (setting value).key = key)
      (reads : ∀ value node, (setting value).StandsFor node → read node = some value)
      (given : ∀ value, settings.Has (setting value) ↔ value? = some value)
      (only : ∀ other, other.key = key → ∃ value, other = setting value) :
      Under read entries key value? := by
    cases value? with
    | none =>
        refine .missing (holds.lookup_eq_none fun other among same => ?_)
        obtain ⟨value, rfl⟩ := only other same
        cases (given value).mp (Settings.mem_members_iff.mp (reordered.mem_iff.mp among))
    | some value =>
        have among := reordered.mem_iff.mpr (Settings.mem_members_iff.mpr ((given value).mpr rfl))
        obtain ⟨node, found, stands⟩ := holds.exists_lookup distinct among
        rw [keyed] at found
        exact .given found (reads value node stands)
  have number (value : Nat) (node : Toml.Node) (stands : Toml.StandsForNatural value node) :=
    natural?_of_standsFor stands
  refine ⟨under .depth (fun _ => rfl) number (fun _ => Iff.rfl) ?_,
    under .markers (fun _ => rfl) (fun _ _ => texts?_of_standsFor) (fun _ => Iff.rfl) ?_,
    under .smokeTimeout (fun _ => rfl) number (fun _ => Iff.rfl) ?_,
    under .unitTimeout (fun _ => rfl) number (fun _ => Iff.rfl) ?_,
    under .integrationTimeout (fun _ => rfl) number (fun _ => Iff.rfl) ?_⟩
  all_goals
    intro other same
    cases other <;> first | exact ⟨_, rfl⟩ | simp [Setting.key] at same

/-- A document of lines is no JSON: it begins with a key, and JSON with a bracket. -/
theorem decode_of_spellsToml {text : String} (spelled : SpellsToml order text.toList) :
    codec.decode text = .error (Json.mismatchAt (Json.dropBlank text.toList)) := by
  apply Json.decode_eq_error
  rcases spelled.opens isBare_key with empty | ⟨gap, c, rest, begins, blank, bare⟩
  · rw [empty]
    exact fun _ none => nomatch none
  · have other := Toml.notMem_of_isBareChar bare
    simp only [List.mem_cons, List.not_mem_nil, or_false, not_or] at other
    obtain ⟨noSpace, noTab, noBreak, noReturn, noBracket, _, _, _, _, noBrace⟩ := other
    have visible : c ∉ Json.blanks := by
      simp only [Json.blanks, List.mem_cons, List.not_mem_nil, or_false, not_or]
      exact ⟨noSpace, noBreak, noTab, noReturn⟩
    have blankInJson : gap ⊆ Json.blanks := fun d member => by
      have listed := blank member
      simp only [Toml.blanks, List.mem_cons, List.not_mem_nil, or_false] at listed
      rcases listed with rfl | rfl <;> decide
    rw [begins, Json.dropBlank_gap_mark blankInJson visible]
    rintro _ ⟨⟩
    exact ⟨noBrace, noBracket⟩

theorem gives_of_spellsToml (reordered : order.Perm settings.members) {text : String}
    (spelled : SpellsToml order text.toList) : Gives text settings := by
  have distinct := (reordered.map Setting.key).nodup_iff.mpr settings.nodup_members
  obtain ⟨entries, holds, document⟩ := Toml.parse_rows reads_setting isBare_key spelled distinct
  exact .toml (decode_of_spellsToml spelled) document (tablesGive_of_holds reordered holds)

end Toml

section Written

def jsonText (order : List Setting) : String :=
  Json.toText (.object (order.map fun setting => (setting.key, setting.On .natural Json.texts)))

/-- The TOML text with a line for each of the given settings, in their order. -/
def tomlText (order : List Setting) : String :=
  String.ofList (Toml.writeRows Setting.key (Setting.On (Nat.toDigits 10) Toml.quotedTexts) order)

variable {order : List Setting} (fits : ∀ setting ∈ order, setting.Fits)

include fits

theorem spellsJson_jsonText : SpellsJson order (jsonText order).toList := by
  rw [jsonText, Json.toText, String.toList_ofList]
  apply Json.spellsRecord_compact
  intro setting among
  have small := fits setting among
  cases setting with
  | markers values => exact Json.enclosed_texts values
  | depth value | smokeTimeout value | unitTimeout value | integrationTimeout value =>
      exact ⟨Nat.lt_trans small (by decide), rfl⟩

theorem spellsToml_tomlText : SpellsToml order (tomlText order).toList := by
  rw [tomlText, String.toList_ofList]
  apply Toml.spellsRows_writeRows
  intro setting among
  have small := fits setting among
  cases setting with
  | markers values => exact Toml.enclosed_quotedTexts values
  | depth value | smokeTimeout value | unitTimeout value | integrationTimeout value =>
      exact ⟨small, rfl⟩

end Written

/-- Settings are spelled in both formats, each in any order, and however they are spelled,
both texts are read as the same configuration: what is given, and the default for the rest. -/
theorem formats_agree {settings : Settings} (fits : ∀ setting ∈ settings.members, setting.Fits)
    {inJson inToml : List Setting} (jsonOrder : inJson.Perm settings.members)
    (tomlOrder : inToml.Perm settings.members) :
    SpellsJson inJson (jsonText inJson).toList ∧ SpellsToml inToml (tomlText inToml).toList ∧
      ∀ json toml : String, SpellsJson inJson json.toList → SpellsToml inToml toml.toList →
        parse json = .ok (settings.over usual) ∧ parse toml = .ok (settings.over usual) := by
  have fitsInJson : ∀ setting ∈ inJson, setting.Fits := fun setting among =>
    fits setting (jsonOrder.mem_iff.mp among)
  have fitsInToml : ∀ setting ∈ inToml, setting.Fits := fun setting among =>
    fits setting (tomlOrder.mem_iff.mp among)
  refine ⟨spellsJson_jsonText fitsInJson, spellsToml_tomlText fitsInToml,
    fun json toml spelledJson spelledToml => ⟨?_, ?_⟩⟩
  · exact parse_eq_ok_iff.mpr ⟨settings, gives_of_spellsJson jsonOrder spelledJson, rfl⟩
  · exact parse_eq_ok_iff.mpr ⟨settings, gives_of_spellsToml tomlOrder spelledToml, rfl⟩

/-- Three of the settings, among them a marker with everything that has to be escaped. -/
def awkward : Settings :=
  ⟨none, some ["a\"b\\c\n\x7f🙂", ""], none, some 0, some 9223372036854775807⟩

theorem formats_agree_awkward :
    jsonText awkward.members = "\x7b\"smoke_markers\":[\"a\\\"b\\\\c\\n\x7f🙂\",\"\"]," ++
        "\"unit_timeout_secs\":0,\"integration_timeout_secs\":9223372036854775807\x7d" ∧
      tomlText awkward.members.reverse = "integration_timeout_secs = 9223372036854775807\n" ++
        "unit_timeout_secs = 0\nsmoke_markers = [\"a\\\"b\\\\c\\u000a\\u007f🙂\", \"\"]\n" ∧
      parse (jsonText awkward.members) =
        .ok ⟨3, ["a\"b\\c\n\x7f🙂", ""], 60, 0, 9223372036854775807⟩ ∧
      parse (tomlText awkward.members.reverse) =
        .ok ⟨3, ["a\"b\\c\n\x7f🙂", ""], 60, 0, 9223372036854775807⟩ := by
  have fits : ∀ setting ∈ awkward.members, setting.Fits := by
    simp [awkward, Settings.members, Setting.Fits, Setting.On]
  obtain ⟨spelledJson, spelledToml, agree⟩ :=
    formats_agree fits (.refl awkward.members) (awkward.members.reverse_perm)
  exact ⟨by decide +kernel, by decide +kernel, agree _ _ spelledJson spelledToml⟩

end TestImpact.EngineConfig
