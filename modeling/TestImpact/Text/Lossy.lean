/-!
# Bytes shown as text

Bytes that are not UTF-8 can still be shown. A replacement character stands for each longest
row of bytes that begins a character and breaks off, and for each byte that begins none.
-/

namespace TestImpact.Text

def replacement : Char := '\uFFFD'

/-- A character of several bytes that is under way. -/
structure Underway where
  /-- The bits of the bytes so far. -/
  value : Nat
  /-- The least byte that may come next. -/
  least : Nat
  /-- The greatest byte that may come next. -/
  greatest : Nat
  /-- How many bytes are due behind the next one. -/
  behind : Nat

/-- Begins a character. The byte behind the first one is bounded, so that no character has
two spellings and none is a surrogate or beyond the last code point. -/
def lead (byte : Nat) : List Char × Option Underway :=
  if byte < 0x80 then ([Char.ofNat byte], none)
  else if byte < 0xC2 then ([replacement], none)
  else if byte < 0xE0 then ([], some ⟨byte - 0xC0, 0x80, 0xBF, 0⟩)
  else if byte < 0xF0 then
    ([], some ⟨byte - 0xE0, if byte = 0xE0 then 0xA0 else 0x80,
      if byte = 0xED then 0x9F else 0xBF, 1⟩)
  else if byte < 0xF5 then
    ([], some ⟨byte - 0xF0, if byte = 0xF0 then 0x90 else 0x80,
      if byte = 0xF4 then 0x8F else 0xBF, 2⟩)
  else ([replacement], none)

/-- Goes on with a character that is under way. A byte that does not fit breaks it off and
begins the next one. -/
def advance (underway : Underway) (byte : Nat) : List Char × Option Underway :=
  if byte < underway.least ∨ underway.greatest < byte then
    (replacement :: (lead byte).1, (lead byte).2)
  else
    let value := underway.value * 64 + (byte - 0x80)
    match underway.behind with
    | 0 => ([Char.ofNat value], none)
    | behind + 1 => ([], some ⟨value, 0x80, 0xBF, behind⟩)

def lossyFrom (underway : Option Underway) : List Nat → List Char
  | [] => if underway.isSome then [replacement] else []
  | byte :: rest =>
      let (shown, next) := underway.elim (lead byte) (advance · byte)
      shown ++ lossyFrom next rest

/-- The text that is shown for bytes. -/
def lossy (bytes : List UInt8) : String :=
  String.ofList (lossyFrom none (bytes.map UInt8.toNat))

end TestImpact.Text
