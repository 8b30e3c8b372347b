import TestImpact.Json.Fault

/-!
# Numerals

A numeral is scanned by the grammar first and given a value afterwards. Whole
numbers below 2^64 are exact. A double is computed from the digits that fit
into 64 bits, scaled by one power of ten, so that its last place follows this
rule and not the nearest double.
-/

namespace TestImpact.Json

/-- A numeral as it is written. -/
structure Numeral where
  negative : Bool
  whole : List Char
  /-- Digits after the point, empty without one. -/
  fraction : List Char
  /-- Sign and digits of the exponent. -/
  exponent : Option (Bool × List Char)
  deriving DecidableEq, Repr

/-- What a numeral stands for. -/
inductive Quantity where
  | natural (value : Nat)
  | double (value : Float)

def missingDigit : List Char → Fault
  | [] => .endOfInput
  | _ => .malformed

def scanExponent (text : List Char) :
    Except Fault (Option (Bool × List Char) × List Char) :=
  match text with
  | c :: rest =>
      if c = 'e' ∨ c = 'E' then
        let (below, unsigned) := match rest with
          | '+' :: digits => (false, digits)
          | '-' :: digits => (true, digits)
          | digits => (false, digits)
        match unsigned.span Char.isDigit with
        | ([], after) => .error (missingDigit after)
        | (digits, after) => .ok (some (below, digits), after)
      else .ok (none, text)
  | [] => .ok (none, [])

def scanFraction : List Char → Except Fault (List Char × List Char)
  | '.' :: rest =>
      match rest.span Char.isDigit with
      | ([], after) => .error (missingDigit after)
      | (digits, after) => .ok (digits, after)
  | text => .ok ([], text)

def scanWhole : List Char → Except Fault (List Char × List Char)
  | '0' :: rest =>
      if (rest.head?.any Char.isDigit) then .error .malformed else .ok (['0'], rest)
  | text =>
      match text.span Char.isDigit with
      | ([], after) => .error (missingDigit after)
      | (digits, after) => .ok (digits, after)

def scanNumeral : Reader Numeral := fun text => do
  let (negative, unsigned) := match text with
    | '-' :: rest => (true, rest)
    | _ => (false, text)
  let (whole, afterWhole) ← scanWhole unsigned
  let (fraction, afterFraction) ← scanFraction afterWhole
  let (exponent, rest) ← scanExponent afterFraction
  return (⟨negative, whole, fraction, exponent⟩, rest)

def digitValue (c : Char) : Nat := c.toNat - '0'.toNat

def naturalValue (digits : List Char) : Nat :=
  digits.foldl (fun value c => value * 10 + digitValue c) 0

/-- Appends digits to a number as long as it fits into 64 bits, and gives the
digits that were left over. -/
def fill (value : Nat) : List Char → Nat × List Char
  | [] => (value, [])
  | c :: rest =>
      if value * 10 + digitValue c < Nat.pow 2 64 then fill (value * 10 + digitValue c) rest
      else (value, c :: rest)

def scaleDown (value : Float) (places : Nat) : Float :=
  if places ≤ 308 then value / Float.ofScientific 1 false places
  else if value == 0 then value
  else scaleDown (value / Float.ofScientific 1 false 308) (places - 308)
termination_by places

def scaleUp? (value : Float) (places : Nat) : Option Float :=
  if places ≤ 308 then
    let scaled := value * Float.ofScientific 1 false places
    if scaled.isInf then none else some scaled
  else if value == 0 then some value
  else none

def exponentLimit : Nat := Nat.pow 2 31 - 1

namespace Numeral

def isNatural (numeral : Numeral) : Bool :=
  !numeral.negative && numeral.fraction.isEmpty && numeral.exponent.isNone &&
    naturalValue numeral.whole < Nat.pow 2 64

def magnitude? (numeral : Numeral) : Option Float :=
  let (leading, left) := fill 0 numeral.whole
  let (digits, unread) := fill leading numeral.fraction
  let shift : Int := (left.length : Int) - (numeral.fraction.length - unread.length : Nat)
  let scale (power : Int) : Option Float :=
    if 0 ≤ power then scaleUp? (Float.ofNat digits) power.toNat
    else some (scaleDown (Float.ofNat digits) (-power).toNat)
  match numeral.exponent with
  | none => scale shift
  | some (below, places) =>
      let power := naturalValue places
      if exponentLimit < power then
        if digits ≠ 0 ∧ !below then none else some 0
      else scale (if below then shift - power else shift + power)

def value? (numeral : Numeral) : Option Quantity :=
  if numeral.isNatural then some (.natural (naturalValue numeral.whole))
  else numeral.magnitude?.map fun magnitude =>
    .double (if numeral.negative then -magnitude else magnitude)

end Numeral

end TestImpact.Json
