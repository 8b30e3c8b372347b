import TestImpact.Toml.Text

/-!
# Numbers and moments of a TOML document

Numbers, dates and times are written without blanks inside, save one that may
part a date from its time. Whole numbers are read for their value. Numbers with
a point and moments are checked for their form only: nothing in this library
looks at their content.
-/

namespace TestImpact.Toml

/-- A whole number that fits into 64 bits with a sign. -/
structure Signed64 where
  value : Int
  low : -(Nat.pow 2 63) ≤ value
  high : value < Nat.pow 2 63
  deriving DecidableEq, Repr

/-- A value that holds no other values. -/
inductive Scalar where
  | text (content : String)
  | integer (number : Signed64)
  | real
  | boolean (value : Bool)
  | moment
  deriving DecidableEq, Repr

/-- Digits in which single underscores may stand between two digits, without the
underscores. -/
def digits? (isDigit : Char → Bool) : List Char → Option (List Char)
  | [] => none
  | [c] => if isDigit c then some [c] else none
  | c :: '_' :: rest =>
      if isDigit c then (digits? isDigit rest).map (c :: ·) else none
  | c :: rest => if isDigit c then (digits? isDigit rest).map (c :: ·) else none

def valueOfDigits (base : Nat) (digits : List Char) : Nat :=
  digits.foldl (fun value c => value * base + (hexDigit? c).getD 0) 0

def wholeDigits? (text : List Char) : Option (List Char) := do
  let digits ← digits? Char.isDigit text
  if digits.head? = some '0' ∧ digits.length ≠ 1 then none else some digits

def splitSign : List Char → Bool × List Char
  | '+' :: rest => (false, rest)
  | '-' :: rest => (true, rest)
  | text => (false, text)

def signed64? (value : Int) : Option Signed64 :=
  if fits : -(Nat.pow 2 63) ≤ value ∧ value < Nat.pow 2 63 then some ⟨value, fits.1, fits.2⟩
  else none

def isOctal (c : Char) : Bool := '0' ≤ c && c ≤ '7'

def isBinary (c : Char) : Bool := c = '0' || c = '1'

def integer? : List Char → Option Signed64
  | '0' :: 'x' :: rest => do
      signed64? (valueOfDigits 16 (← digits? (fun c => (hexDigit? c).isSome) rest))
  | '0' :: 'o' :: rest => do signed64? (valueOfDigits 8 (← digits? isOctal rest))
  | '0' :: 'b' :: rest => do signed64? (valueOfDigits 2 (← digits? isBinary rest))
  | text => do
      let (negative, unsigned) := splitSign text
      let value := valueOfDigits 10 (← wholeDigits? unsigned)
      signed64? (if negative then -value else value)

def exponent? (text : List Char) : Option Int := do
  let (negative, unsigned) := splitSign text
  let value := valueOfDigits 10 (← digits? Char.isDigit unsigned)
  return if negative then -value else value

def doubleLimit : Nat := Nat.pow 2 1024 - Nat.pow 2 970

def exceedsDouble (value : Nat) (power : Int) : Bool :=
  if value = 0 then false
  else if 309 ≤ power then true
  else if 0 ≤ power then doubleLimit ≤ value * Nat.pow 10 power.toNat
  else if (Nat.toDigits 10 value).length < (-power).toNat then false
  else doubleLimit * Nat.pow 10 (-power).toNat ≤ value

def isReal (text : List Char) : Bool :=
  let (negative, unsigned) := splitSign text
  if unsigned = "inf".toList ∨ unsigned = "nan".toList then true
  else
    let (mantissa, behind) := unsigned.span fun c => c ≠ 'e' && c ≠ 'E'
    let (whole, fraction) := mantissa.span (· ≠ '.')
    let parts := do
      let wholeDigits ← wholeDigits? whole
      let fractionDigits ← match fraction with
        | [] => some []
        | _ :: rest => digits? Char.isDigit rest
      let exponent ← match behind with
        | [] => some 0
        | _ :: rest => exponent? rest
      return (wholeDigits ++ fractionDigits, exponent - fractionDigits.length)
    match parts with
    | none => false
    | some (digits, power) =>
        !(fraction.isEmpty && behind.isEmpty) &&
          (negative || !exceedsDouble (valueOfDigits 10 digits) power)

def fixedNumber? (count : Nat) (text : List Char) : Option Nat :=
  if text.length = count ∧ text.all Char.isDigit then some (valueOfDigits 10 text) else none

def daysIn (year month : Nat) : Nat :=
  if month = 2 then
    if year % 4 = 0 ∧ (year % 100 ≠ 0 ∨ year % 400 = 0) then 29 else 28
  else if month = 4 ∨ month = 6 ∨ month = 9 ∨ month = 11 then 30
  else 31

def isDate (text : List Char) : Bool :=
  text.length = 10 && text[4]? = some '-' && text[7]? = some '-' &&
    match fixedNumber? 4 (text.take 4), fixedNumber? 2 ((text.drop 5).take 2),
      fixedNumber? 2 (text.drop 8) with
    | some year, some month, some day =>
        1 ≤ month && month ≤ 12 && 1 ≤ day && day ≤ daysIn year month
    | _, _, _ => false

def isHourMinute (text : List Char) : Bool :=
  text.length = 5 && text[2]? = some ':' &&
    match fixedNumber? 2 (text.take 2), fixedNumber? 2 (text.drop 3) with
    | some hour, some minute => hour ≤ 23 && minute ≤ 59
    | _, _ => false

/-- Whether a text is a time of day, with or without a fraction of the second. -/
def isTime (text : List Char) : Bool :=
  let (seconds, fraction) := text.span (· ≠ '.')
  seconds.length = 8 && isHourMinute (seconds.take 5) && seconds[5]? = some ':' &&
    ((fixedNumber? 2 (seconds.drop 6)).any (· ≤ 60)) &&
    match fraction with
    | [] => true
    | _ :: digits => !digits.isEmpty && digits.all Char.isDigit

/-- Whether a text is a time of day, with or without a distance from the zero
meridian. -/
def isZonedTime (text : List Char) : Bool :=
  let (time, zone) := text.span fun c => c ≠ 'Z' && c ≠ 'z' && c ≠ '+' && c ≠ '-'
  isTime time &&
    match zone with
    | [] => true
    | c :: rest => if c = 'Z' ∨ c = 'z' then rest.isEmpty else isHourMinute rest

/-- Whether a text is a date, a time, or both put together with a letter. -/
def isMoment (text : List Char) : Bool :=
  isDate text || isTime text ||
    (isDate (text.take 10) && (text[10]? = some 'T' || text[10]? = some 't') &&
      isZonedTime (text.drop 11))

def isScalarChar (c : Char) : Bool :=
  c.isAlphanum || c = '+' || c = '-' || c = '.' || c = ':' || c = '_'

/-- Reads a number, a date or a time. A blank may stand between a date and a time. -/
def readPlain : Reader Scalar := fun text =>
  let (word, rest) := text.span isScalarChar
  match integer? word with
  | some number => some (.integer number, rest)
  | none =>
      if isMoment word then
        match rest with
        | ' ' :: behind =>
            let (time, after) := behind.span isScalarChar
            if isDate word && isZonedTime time then some (.moment, after)
            else some (.moment, rest)
        | _ => some (.moment, rest)
      else if isReal word then some (.real, rest)
      else if word = "true".toList then some (.boolean true, rest)
      else if word = "false".toList then some (.boolean false, rest)
      else none

def readScalar : Reader Scalar := fun text =>
  match text with
  | '"' :: _ => (readText text).map fun (content, rest) => (.text content, rest)
  | '\x27' :: _ => (readText text).map fun (content, rest) => (.text content, rest)
  | _ => readPlain text

end TestImpact.Toml
