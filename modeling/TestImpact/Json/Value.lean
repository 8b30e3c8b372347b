import TestImpact.Decimal.Shortest

/-!
# JSON values and their text

A value keeps the members of a record in the order in which they are written.
`compact` writes a value without blanks, `pretty` with one entry a line and
two blanks of indent. Quotation marks, backslashes and control characters are
escaped; everything else stands for itself.
-/

namespace TestImpact

/-- A JSON value. Whole numbers and doubles are kept apart, as they are written
differently. -/
inductive Json where
  | null
  | bool (value : Bool)
  | natural (value : Nat)
  | double (value : Float)
  | string (value : String)
  | array (items : List Json)
  | object (members : List (String × Json))

namespace Json

def texts (values : List String) : Json := .array (values.map .string)

def hexDigit (value : Nat) : Char := Nat.digitChar value

def escaped (c : Char) : List Char :=
  if c = '"' then ['\\', '"']
  else if c = '\\' then ['\\', '\\']
  else if c = '\x08' then ['\\', 'b']
  else if c = '\x0c' then ['\\', 'f']
  else if c = '\n' then ['\\', 'n']
  else if c = '\r' then ['\\', 'r']
  else if c = '\t' then ['\\', 't']
  else if c.toNat < 32 then
    ['\\', 'u', '0', '0', hexDigit (c.toNat / 16), hexDigit (c.toNat % 16)]
  else [c]

def quoted (value : String) : List Char :=
  '"' :: (value.toList.flatMap escaped ++ ['"'])

def exponentText (exponent : Int) : List Char :=
  'e' :: (if exponent < 0 then '-' else '+') :: Nat.toDigits 10 exponent.natAbs

/-- Lays out a decimal: positional from five leading zeros to sixteen whole
digits, always with a point, and otherwise with an exponent. -/
def layOut (decimal : Decimal.Scaled) : List Char :=
  let digits := Nat.toDigits 10 decimal.digits
  let whole : Int := digits.length + decimal.power
  if 0 ≤ decimal.power ∧ whole ≤ 16 then
    digits ++ List.replicate decimal.power.toNat '0' ++ ['.', '0']
  else if 0 < whole ∧ whole ≤ 16 then
    digits.take whole.toNat ++ '.' :: digits.drop whole.toNat
  else if -5 < whole ∧ whole ≤ 0 then
    '0' :: '.' :: (List.replicate (-whole).toNat '0' ++ digits)
  else
    let mantissa := if digits.length = 1 then digits else digits.take 1 ++ '.' :: digits.drop 1
    mantissa ++ exponentText (whole - 1)

/-- The text of a double: the shortest decimal that reads back. What is not a
number has no text in this format and becomes `null`. -/
def doubleText (value : Float) : List Char :=
  if value.isNaN || value.isInf then "null".toList
  else
    let bits := value.toBits
    let sign := if bits >>> 63 = 1 then ['-'] else []
    let magnitude := Decimal.Binary.ofBits bits
    if magnitude.mantissa = 0 then sign ++ "0.0".toList
    else sign ++ layOut (Decimal.shortest magnitude)

def scalarText : Json → List Char
  | .null => "null".toList
  | .bool true => "true".toList
  | .bool false => "false".toList
  | .natural value => Nat.toDigits 10 value
  | .double value => doubleText value
  | .string value => quoted value
  | .array _ => []
  | .object _ => []

mutual

def compact : Json → List Char
  | .array items => '[' :: (compactItems items ++ [']'])
  | .object members => '{' :: (compactMembers members ++ ['}'])
  | scalar => scalarText scalar

def compactItems : List Json → List Char
  | [] => []
  | [item] => compact item
  | item :: next :: rest => compact item ++ ',' :: compactItems (next :: rest)

def compactMembers : List (String × Json) → List Char
  | [] => []
  | [(name, value)] => quoted name ++ ':' :: compact value
  | (name, value) :: next :: rest =>
      quoted name ++ ':' :: (compact value ++ ',' :: compactMembers (next :: rest))

end

def newLine (level : Nat) : List Char := '\n' :: List.replicate (2 * level) ' '

mutual

/-- Writes a value with one entry a line; empty lists and records stay on one. -/
def prettyAt (level : Nat) : Json → List Char
  | .array [] => ['[', ']']
  | .object [] => ['{', '}']
  | .array (item :: rest) =>
      '[' :: (newLine (level + 1) ++ prettyAt (level + 1) item ++
        prettyItems (level + 1) rest ++ newLine level ++ [']'])
  | .object ((name, value) :: rest) =>
      '{' :: (newLine (level + 1) ++ quoted name ++ ':' :: ' ' :: prettyAt (level + 1) value ++
        prettyMembers (level + 1) rest ++ newLine level ++ ['}'])
  | scalar => scalarText scalar

def prettyItems (level : Nat) : List Json → List Char
  | [] => []
  | item :: rest => ',' :: (newLine level ++ prettyAt level item ++ prettyItems level rest)

def prettyMembers (level : Nat) : List (String × Json) → List Char
  | [] => []
  | (name, value) :: rest =>
      ',' :: (newLine level ++ quoted name ++ ':' :: ' ' :: prettyAt level value ++
        prettyMembers level rest)

end

def toText (value : Json) : String := String.ofList value.compact

def toPrettyText (value : Json) : String := String.ofList (value.prettyAt 0)

end Json

end TestImpact
