import TestImpact.Disk
import TestImpact.Reach.Resolver
import TestImpact.Testing.PathFilter
import TestImpact.Text.Quoted
import TestImpact.Toml.Document

/-!
# Configuration

The configuration is written in JSON or, where the text is no JSON of that
shape, in TOML. A key that is left out has its default, and keys that are not
known do not count. The depth can be set from the environment, by a value that is
text; bytes of another kind pass for no value at all. What the engine works with
has been validated: the depth is between 1 and 16, and no marker is blank.
-/

namespace TestImpact

open Json (Codec)

/-- What the environment has under a name. -/
inductive EnvironmentValue where
  | unset
  | text (raw : String)
  | notText (bytes : RawBytes)
  deriving DecidableEq

/-- Why a configuration or a pattern cannot be used. -/
inductive ConfigFault where
  | patterns (fault : Testing.PatternsFault)
  /-- The text is of neither format. -/
  | unreadable
  /-- The depth in the environment is not a number below 2^64. -/
  | depthNotANumber (raw : String)
  | depthOutOfRange (depth : Nat)
  | blankMarker
  deriving DecidableEq, Repr

namespace EngineConfig

def depthVariable : String := "CONTEXT_TESTS_MAX_DEPTH"

def depthLimit : Nat := 16

end EngineConfig

def ConfigFault.message : ConfigFault → String
  | patterns fault => fault.message
  | unreadable => "config is not valid JSON"
  | depthNotANumber raw =>
      EngineConfig.depthVariable ++ "=" ++ Text.quoted raw ++ " is not a number"
  | depthOutOfRange depth =>
      "max_dependency_depth must be between 1 and " ++ toString EngineConfig.depthLimit ++
        ", got " ++ toString depth
  | blankMarker => "smoke_markers must not contain empty markers"

/-- How the engine works, for every run. -/
structure EngineConfig where
  /-- How far references are followed. -/
  depth : Nat
  /-- What marks a smoke test. -/
  markers : List String
  /-- Time for a smoke test, in seconds. -/
  smokeTimeout : Nat
  /-- Time for a unit test, in seconds. -/
  unitTimeout : Nat
  /-- Time for an integration test, in seconds. -/
  integrationTimeout : Nat
  deriving DecidableEq, Repr

namespace EngineConfig

def usual : EngineConfig := ⟨Reach.Resolver.usualDepth, ["smoke"], 60, 30, 300⟩

instance : Inhabited EngineConfig := ⟨usual⟩

def fields : List (Json.Field EngineConfig) :=
  [.defaulted "max_dependency_depth" Json.naturalCodec depth fun value config =>
     { config with depth := value },
   .defaulted "smoke_markers" Json.textsCodec markers fun value config =>
     { config with markers := value },
   .defaulted "smoke_timeout_secs" Json.naturalCodec smokeTimeout fun value config =>
     { config with smokeTimeout := value },
   .defaulted "unit_timeout_secs" Json.naturalCodec unitTimeout fun value config =>
     { config with unitTimeout := value },
   .defaulted "integration_timeout_secs" Json.naturalCodec integrationTimeout
     fun value config => { config with integrationTimeout := value }]

def codec : Codec EngineConfig := Json.recordCodec fields usual

section Toml

open Toml (Node Entries)

def natural? : Node → Option Nat
  | .scalar (.integer number) => if 0 ≤ number.value then some number.value.toNat else none
  | _ => none

def text? : Node → Option String
  | .scalar (.text content) => some content
  | _ => none

def texts? : Node → Option (List String)
  | .array items => items.mapM text?
  | _ => none

/-- The value under a key, or the default without the key. Nothing is given for a
value of another shape. -/
def entry? {α : Type} (read : Node → Option α) (entries : Entries) (key : String)
    (default : α) : Option α :=
  match entries.lookup key with
  | none => some default
  | some node => read node

def ofTables? (entries : Entries) : Option EngineConfig := do
  return {
    depth := ← entry? natural? entries "max_dependency_depth" usual.depth
    markers := ← entry? texts? entries "smoke_markers" usual.markers
    smokeTimeout := ← entry? natural? entries "smoke_timeout_secs" usual.smokeTimeout
    unitTimeout := ← entry? natural? entries "unit_timeout_secs" usual.unitTimeout
    integrationTimeout :=
      ← entry? natural? entries "integration_timeout_secs" usual.integrationTimeout }

end Toml

def parse (text : String) : Except ConfigFault EngineConfig :=
  match codec.decode text with
  | .ok config => .ok config
  | .error _ =>
      match Toml.parse text >>= ofTables? with
      | some config => .ok config
      | none => .error .unreadable

def validate (config : EngineConfig) : Except ConfigFault Unit :=
  if config.depth = 0 ∨ depthLimit < config.depth then .error (.depthOutOfRange config.depth)
  else if config.markers.any fun marker => Text.trim marker = "" then .error .blankMarker
  else .ok ()

def unsignedDigits (text : List Char) : List Char :=
  match text with
  | '+' :: digits => digits
  | digits => digits

def parseDepth? (raw : String) : Option Nat :=
  let digits := unsignedDigits (Text.trimChars raw.toList)
  if digits.isEmpty ∨ !digits.all Char.isDigit then none
  else
    let value := Json.naturalValue digits
    if value < Nat.pow 2 64 then some value else none

def override (config : EngineConfig) (found : EnvironmentValue) :
    Except ConfigFault EngineConfig :=
  match found with
  | .text raw =>
      match parseDepth? raw with
      | some depth => .ok { config with depth }
      | none => .error (.depthNotANumber raw)
  | .unset | .notText _ => .ok config

def checked (config : EngineConfig) : Except ConfigFault EngineConfig := do
  validate config
  return config

/-- Why there is no configuration. -/
inductive LoadError where
  | access (cause : AccessError)
  | fault (cause : ConfigFault)
  deriving DecidableEq, Repr

def ofFile {m : Type → Type} [Monad m] (disk : Disk m) (path : String) :
    m (Except LoadError EngineConfig) := do
  match ← disk.readText path with
  | .error cause => return .error (.access cause)
  | .ok text => return ((parse text).bind checked).mapError .fault

/-- The configuration in a file, or the usual one without a file, with the depth
from the environment. -/
def load {m : Type → Type} [Monad m] (disk : Disk m) (path? : Option String)
    (found : EnvironmentValue) : m (Except LoadError EngineConfig) := do
  let config ← match path? with
    | some path => ofFile disk path
    | none => pure (.ok usual)
  return config.bind fun written =>
    ((written.override found).bind checked).mapError .fault

end EngineConfig

end TestImpact
