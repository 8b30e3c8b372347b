import TestImpact.Json.Skip
import TestImpact.Listing.Dictionary

/-!
# Reading values of a known shape

Every reader here takes the value that is due off the front of the text. Where
another value stands, `mismatchAt` decides whether the text is broken or merely
of another shape: scalars are read to their end before they count as a
mismatch, lists and records count at their opening bracket.
-/

namespace TestImpact.Json

open Listing

def mismatchAt (text : List Char) : Fault :=
  let outcome : Except Fault Unit :=
    match text with
    | [] => .error .endOfInput
    | c :: rest =>
        if c = '[' ∨ c = '\x7b' then .ok ()
        else if c = '"' then (readQuoted rest).map fun _ => ()
        else if c = 'n' then (expect "ull".toList rest).map fun _ => ()
        else if c = 't' then (expect "rue".toList rest).map fun _ => ()
        else if c = 'f' then (expect "alse".toList rest).map fun _ => ()
        else if c = '-' ∨ c.isDigit then do
          let (numeral, _) ← scanNumeral text
          if numeral.value?.isNone then .error .malformed
        else .error .malformed
  match outcome with
  | .ok () => .mismatch
  | .error fault => fault

def readText : Reader String := fun text =>
  match dropBlank text with
  | '"' :: rest => readQuoted rest
  | other => .error (mismatchAt other)

def readFlag : Reader Bool := fun text =>
  match dropBlank text with
  | 't' :: rest => (expect "rue".toList rest).map fun after => (true, after)
  | 'f' :: rest => (expect "alse".toList rest).map fun after => (false, after)
  | other => .error (mismatchAt other)

def readQuantity : Reader Quantity := fun text =>
  match dropBlank text with
  | [] => .error .endOfInput
  | c :: rest =>
      if c = '-' ∨ c.isDigit then do
        let (numeral, after) ← scanNumeral (c :: rest)
        match numeral.value? with
        | some quantity => .ok (quantity, after)
        | none => .error .malformed
      else .error (mismatchAt (c :: rest))

def readNatural : Reader Nat := fun text => do
  match ← readQuantity text with
  | (.natural value, rest) => .ok (value, rest)
  | (.double _, _) => .error .mismatch

def readDouble : Reader Float := fun text => do
  match ← readQuantity text with
  | (.natural value, rest) => .ok (Float.ofNat value, rest)
  | (.double value, rest) => .ok (value, rest)

def readNull : Reader Unit := fun text =>
  match dropBlank text with
  | 'n' :: rest => (expect "ull".toList rest).map fun after => ((), after)
  | other => .error (mismatchAt other)

def readOptional {α : Type} (reader : Reader α) : Reader (Option α) := fun text =>
  match dropBlank text with
  | 'n' :: rest => (expect "ull".toList rest).map fun after => (none, after)
  | other => (reader other).map fun (value, after) => (some value, after)

/-- Reads the items of a list that is not empty, up to its closing bracket. Every
item takes at least one character, so the length of the text bounds the rounds. -/
def readItems {α : Type} (reader : Reader α) : (rounds : Nat) → Reader (List α)
  | 0, _ => .error .endOfInput
  | rounds + 1, text => do
      let (item, after) ← reader text
      match dropBlank after with
      | ',' :: rest =>
          let (items, ending) ← readItems reader rounds rest
          .ok (item :: items, ending)
      | ']' :: rest => .ok ([item], rest)
      | [] => .error .endOfInput
      | _ => .error .malformed

def readList {α : Type} (reader : Reader α) : Reader (List α) := fun text =>
  match dropBlank text with
  | '[' :: rest =>
      match dropBlank rest with
      | ']' :: after => .ok ([], after)
      | first => readItems reader first.length first
  | other => .error (mismatchAt other)

def readName : Reader String := fun text =>
  match dropBlank text with
  | '"' :: rest => do
      let (name, after) ← readQuoted rest
      .ok (name, ← colon after)
  | [] => .error .endOfInput
  | _ => .error .malformed

/-- Reads the entries of a dictionary that is not empty, up to its closing bracket. -/
def readEntries {α : Type} (reader : Reader α) : (rounds : Nat) → Reader (List (String × α))
  | 0, _ => .error .endOfInput
  | rounds + 1, text => do
      let (name, named) ← readName text
      let (value, after) ← reader named
      match dropBlank after with
      | ',' :: rest =>
          let (entries, ending) ← readEntries reader rounds rest
          .ok ((name, value) :: entries, ending)
      | '\x7d' :: rest => .ok ([(name, value)], rest)
      | [] => .error .endOfInput
      | _ => .error .malformed

/-- Reads a record with free names; of two values under one name the later stays. -/
def readDictionary {α : Type} (reader : Reader α) : Reader (Dictionary α) := fun text =>
  match dropBlank text with
  | '\x7b' :: rest =>
      match dropBlank rest with
      | '\x7d' :: after => .ok (.empty, after)
      | first => do
          let (entries, ending) ← readEntries reader first.length first
          .ok (.ofList entries, ending)
  | other => .error (mismatchAt other)

/-- Reads a name out of a fixed choice: the name as a text, or a record with the
name as its one member and `null` as the value. -/
def readChoice {α : Type} (choose : String → Option α) : Reader α := fun text =>
  match dropBlank text with
  | '"' :: rest => named rest
  | '\x7b' :: rest =>
      match dropBlank rest with
      | '"' :: name => do
          let (value, after) ← named name
          let ((), ending) ← readNull (← colon after)
          match dropBlank ending with
          | '\x7d' :: closed => .ok (value, closed)
          | [] => .error .endOfInput
          | _ => .error .malformed
      | other => .error (mismatchAt other)
  | [] => .error .endOfInput
  | _ => .error .malformed
where
  named : Reader α := fun text => do
    let (name, rest) ← readQuoted text
    match choose name with
    | some value => .ok (value, rest)
    | none => .error .mismatch

def readDocument {α : Type} (reader : Reader α) (text : String) : Except Fault α := do
  let (value, rest) ← reader text.toList
  if (dropBlank rest).isEmpty then .ok value else .error .malformed

end TestImpact.Json
