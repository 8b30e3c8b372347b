/-!
# Why a JSON text is refused

Reading goes through the text once, from left to right, and the first problem
met is the one reported. A reader takes the text that is left and gives a value
with what is left after it.
-/

namespace TestImpact.Json

/-- The kinds of problems with a text. -/
inductive Fault where
  /-- The text ends inside a value. -/
  | endOfInput
  /-- The text breaks the grammar. -/
  | malformed
  /-- A value is well formed but not of the shape that is due. -/
  | mismatch
  deriving DecidableEq, Repr

abbrev Reader (α : Type) := List Char → Except Fault (α × List Char)

def isBlank (c : Char) : Bool := c = ' ' || c = '\n' || c = '\t' || c = '\r'

def dropBlank (text : List Char) : List Char := text.dropWhile isBlank

def expect : List Char → List Char → Except Fault (List Char)
  | [], rest => .ok rest
  | _ :: _, [] => .error .endOfInput
  | letter :: letters, c :: rest =>
      if c = letter then expect letters rest else .error .malformed

def colon (text : List Char) : Except Fault (List Char) :=
  match dropBlank text with
  | ':' :: rest => .ok rest
  | [] => .error .endOfInput
  | _ => .error .malformed

@[simp] theorem expect_append (letters rest : List Char) :
    expect letters (letters ++ rest) = .ok rest := by
  induction letters with
  | nil => rfl
  | cons letter letters ih => simp [expect, ih]

end TestImpact.Json
