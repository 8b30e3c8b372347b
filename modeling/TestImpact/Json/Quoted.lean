import TestImpact.Json.Fault

/-!
# Text between quotation marks

A quoted text is first cut into pieces, characters and 16-bit units written as
`\uXXXX`, up to its closing mark. Pairing the units into characters is a second
step, because a value that is passed over may hold units that pair with
nothing, while a text that is read may not.
-/

namespace TestImpact.Json

/-- A part of a quoted text. -/
inductive Piece where
  | char (c : Char)
  | unit (value : Nat)
  deriving DecidableEq, Repr

def hexValue? (c : Char) : Option Nat :=
  if '0' ≤ c ∧ c ≤ '9' then some (c.toNat - '0'.toNat)
  else if 'a' ≤ c ∧ c ≤ 'f' then some (c.toNat - 'a'.toNat + 10)
  else if 'A' ≤ c ∧ c ≤ 'F' then some (c.toNat - 'A'.toNat + 10)
  else none

def unit? (a b c d : Char) : Option Nat := do
  let first ← hexValue? a
  let second ← hexValue? b
  let third ← hexValue? c
  let fourth ← hexValue? d
  return ((first * 16 + second) * 16 + third) * 16 + fourth

def escape? (c : Char) : Option Char :=
  if c = '"' ∨ c = '\\' ∨ c = '/' then some c
  else if c = 'b' then some '\x08'
  else if c = 'f' then some '\x0c'
  else if c = 'n' then some '\n'
  else if c = 'r' then some '\r'
  else if c = 't' then some '\t'
  else none

def byteCount (text : List Char) : Nat := text.foldl (fun count c => count + c.utf8Size) 0

/-- Cuts a text into pieces up to the closing mark, and gives what follows it
or the problem that came first. An escape of four digits needs four bytes. -/
def pieces : List Char → List Piece × Except Fault (List Char)
  | [] => ([], .error .endOfInput)
  | '"' :: rest => ([], .ok rest)
  | '\\' :: 'u' :: a :: b :: c :: d :: rest =>
      match unit? a b c d with
      | some value =>
          let (later, ending) := pieces rest
          (.unit value :: later, ending)
      | none => ([], .error .malformed)
  | '\\' :: 'u' :: rest =>
      ([], .error (if byteCount rest < 4 then .endOfInput else .malformed))
  | ['\\'] => ([], .error .endOfInput)
  | '\\' :: letter :: rest =>
      match escape? letter with
      | some c =>
          let (later, ending) := pieces rest
          (.char c :: later, ending)
      | none => ([], .error .malformed)
  | c :: rest =>
      if c < ' ' then ([], .error .malformed)
      else
        let (later, ending) := pieces rest
        (.char c :: later, ending)

def isLeading (value : Nat) : Bool := 0xD800 ≤ value && value < 0xDC00

def isTrailing (value : Nat) : Bool := 0xDC00 ≤ value && value < 0xE000

def pairValue (leading trailing : Nat) : Char :=
  Char.ofNat ((leading - 0xD800) * 0x400 + (trailing - 0xDC00) + 0x10000)

/-- Turns pieces into characters. Every first half needs its second half next
to it; a problem with a pair counts before the problem that ended the pieces. -/
def assemble (ending : Except Fault (List Char)) :
    List Piece → Except Fault (List Char × List Char)
  | [] => ending.map fun rest => ([], rest)
  | .char c :: later => (assemble ending later).map fun (text, rest) => (c :: text, rest)
  | .unit value :: later =>
      if isTrailing value then .error .malformed
      else if isLeading value then
        match later with
        | .unit second :: others =>
            if isTrailing second then
              (assemble ending others).map fun (text, rest) =>
                (pairValue value second :: text, rest)
            else .error .malformed
        | .char _ :: _ => .error .malformed
        | [] =>
            match ending with
            | .ok _ => .error .malformed
            | .error fault => .error fault
      else (assemble ending later).map fun (text, rest) => (Char.ofNat value :: text, rest)

def readQuoted : Reader String := fun text =>
  let (parts, ending) := pieces text
  (assemble ending parts).map fun (value, rest) => (String.ofList value, rest)

def skipQuoted (text : List Char) : Except Fault (List Char) := (pieces text).2

end TestImpact.Json
