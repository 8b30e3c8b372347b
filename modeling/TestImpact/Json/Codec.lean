import TestImpact.Json.Value
import TestImpact.Json.Reader

/-!
# How domain values are written and read

A codec pairs the JSON form of a value with the reader of that form. The codec
of a record is a list of fields, each with its name, the way it is written, and
the way it is read into a record under construction. A record is also read from
a list that gives the fields in order.
-/

namespace TestImpact.Json

open Listing

/-- The written form of a type and its reader. -/
structure Codec (α : Type) where
  write : α → Json
  read : Reader α

def textCodec : Codec String := ⟨.string, readText⟩

def flagCodec : Codec Bool := ⟨.bool, readFlag⟩

def naturalCodec : Codec Nat := ⟨.natural, readNatural⟩

def doubleCodec : Codec Float := ⟨.double, readDouble⟩

def listCodec {α : Type} (item : Codec α) : Codec (List α) :=
  ⟨fun items => .array (items.map item.write), readList item.read⟩

def textsCodec : Codec (List String) := listCodec textCodec

def optionalCodec {α : Type} (value : Codec α) : Codec (Option α) :=
  ⟨fun | some content => value.write content | none => .null, readOptional value.read⟩

def dictionaryCodec {α : Type} (value : Codec α) : Codec (Dictionary α) where
  write dictionary := .object (dictionary.entries.map fun (key, content) =>
    (key, value.write content))
  read := readDictionary value.read

def choiceCodec {α : Type} (name : α → String) (choose : String → Option α) : Codec α :=
  ⟨fun value => .string (name value), readChoice choose⟩

/-- A field of a record. -/
structure Field (ρ : Type) where
  name : String
  /-- Whether a record without the field is refused. -/
  isRequired : Bool
  /-- The written value, or nothing if the field is left out. -/
  write : ρ → Option Json
  /-- Reads a value into the record. -/
  read : ρ → Reader ρ

namespace Field

variable {ρ α : Type}

def readInto (codec : Codec α) (set : α → ρ → ρ) (whole : ρ) : Reader ρ := fun text =>
  (codec.read text).map fun (value, rest) => (set value whole, rest)

def required (name : String) (codec : Codec α) (get : ρ → α) (set : α → ρ → ρ) : Field ρ where
  name
  isRequired := true
  write whole := some (codec.write (get whole))
  read := readInto codec set

def defaulted (name : String) (codec : Codec α) (get : ρ → α) (set : α → ρ → ρ) : Field ρ where
  name
  isRequired := false
  write whole := some (codec.write (get whole))
  read := readInto codec set

/-- A field that may be missing and is left out when it has its default. -/
def omitted (name : String) (codec : Codec α) (get : ρ → α) (set : α → ρ → ρ)
    (isDefault : α → Bool) : Field ρ where
  name
  isRequired := false
  write whole := if isDefault (get whole) then none else some (codec.write (get whole))
  read := readInto codec set

end Field

section Record

variable {ρ : Type}

def writeFields (fields : List (Field ρ)) (whole : ρ) : List (String × Json) :=
  fields.filterMap fun field => (field.write whole).map fun value => (field.name, value)

def complete (fields : List (Field ρ)) (given : List String) : Bool :=
  fields.all fun field => !field.isRequired || field.name ∈ given

/-- Reads one member into a record. A known name may be given once; the value of
an unknown name is passed over. -/
def readMember (fields : List (Field ρ)) (whole : ρ) (given : List String) :
    Reader (ρ × List String) := fun text =>
  match dropBlank text with
  | '"' :: rest => do
      let (name, after) ← readQuoted rest
      match fields.find? (·.name = name) with
      | none => .ok ((whole, given), ← skipValue (← colon after))
      | some field =>
          if name ∈ given then .error .mismatch
          else
            let (updated, ending) ← field.read whole (← colon after)
            .ok ((updated, name :: given), ending)
  | [] => .error .endOfInput
  | _ => .error .malformed

/-- Reads members up to the closing bracket. Every member takes at least one
character, so the length of the text bounds the rounds. -/
def readMembers (fields : List (Field ρ)) :
    (rounds : Nat) → ρ → List String → Reader ρ
  | 0, _, _, _ => .error .endOfInput
  | rounds + 1, whole, given, text => do
      let ((updated, names), after) ← readMember fields whole given text
      match dropBlank after with
      | ',' :: rest => readMembers fields rounds updated names rest
      | '\x7d' :: rest =>
          if complete fields names then .ok (updated, rest) else .error .mismatch
      | [] => .error .endOfInput
      | _ => .error .malformed

/-- Reads the fields in order from the items of a list. A list that ends early
leaves the remaining fields at their defaults, and none may follow the last. -/
def readOrdered : List (Field ρ) → (isFirst : Bool) → ρ → Reader ρ
  | [], _, whole, text =>
      match dropBlank text with
      | ']' :: rest => .ok (whole, rest)
      | [] => .error .endOfInput
      | _ => .error .malformed
  | field :: later, isFirst, whole, text =>
      match dropBlank text with
      | ']' :: rest =>
          if complete (field :: later) [] then .ok (whole, rest) else .error .mismatch
      | [] => .error .endOfInput
      | c :: rest =>
          if isFirst then do
            let (updated, after) ← field.read whole (c :: rest)
            readOrdered later false updated after
          else if c = ',' then do
            let (updated, after) ← field.read whole rest
            readOrdered later false updated after
          else .error .malformed

/-- Reads a record, starting from the record with every field at its default. -/
def readRecord (fields : List (Field ρ)) (start : ρ) : Reader ρ := fun text =>
  match dropBlank text with
  | '\x7b' :: rest =>
      match dropBlank rest with
      | '\x7d' :: after =>
          if complete fields [] then .ok (start, after) else .error .mismatch
      | first => readMembers fields first.length start [] first
  | '[' :: rest => readOrdered fields true start rest
  | other => .error (mismatchAt other)

def recordCodec (fields : List (Field ρ)) (start : ρ) : Codec ρ :=
  ⟨fun whole => .object (writeFields fields whole), readRecord fields start⟩

end Record

namespace Codec

variable {α : Type}

def decode (codec : Codec α) (text : String) : Except Fault α := readDocument codec.read text

def encode (codec : Codec α) (value : α) : String := (codec.write value).toText

end Codec

end TestImpact.Json
