import TestImpact.Json.Numeral
import TestImpact.Json.Quoted

/-!
# Passing over values

Members with unknown names are passed over: their values must follow the
grammar, but neither the size of numerals nor the pairing of escaped units
matters. The brackets that are open form a stack, so any depth is allowed.
-/

namespace TestImpact.Json

/-- A bracket that is open. -/
inductive Bracket where
  | list
  | record
  deriving DecidableEq, Repr

/-- What the text is due to go on with. -/
inductive Due where
  /-- A value, or the closing bracket if one may follow at once. -/
  | value (closable : Bool)
  /-- The name of a member, or the closing bracket if one may follow at once. -/
  | name (closable : Bool)
  /-- A comma or a closing bracket. -/
  | separator
  deriving DecidableEq, Repr

def skipNumeral (text : List Char) : Except Fault (List Char) :=
  match scanNumeral text with
  | .ok (_, rest) => .ok rest
  | .error _ => .error .malformed

def skipName (text : List Char) : Except Fault (List Char) := do
  colon (← skipQuoted text)

/-- Passes over what is due until all brackets are closed. Every round takes at
least one character, so the length of the text bounds the rounds. -/
def skipOpen : (rounds : Nat) → List Bracket → Due → List Char → Except Fault (List Char)
  | 0, _, _, _ => .error .endOfInput
  | rounds + 1, opened, .value closable, text =>
      match dropBlank text with
      | [] => .error .endOfInput
      | c :: rest =>
          if c = ']' ∧ closable then afterValue rounds opened.tail rest
          else if c = '[' then skipOpen rounds (.list :: opened) (.value true) rest
          else if c = '\x7b' then skipOpen rounds (.record :: opened) (.name true) rest
          else if c = '"' then skipQuoted rest >>= afterValue rounds opened
          else if c = 'n' then expect "ull".toList rest >>= afterValue rounds opened
          else if c = 't' then expect "rue".toList rest >>= afterValue rounds opened
          else if c = 'f' then expect "alse".toList rest >>= afterValue rounds opened
          else if c = '-' ∨ c.isDigit then skipNumeral (c :: rest) >>= afterValue rounds opened
          else .error .malformed
  | rounds + 1, opened, .name closable, text =>
      match dropBlank text with
      | [] => .error .endOfInput
      | c :: rest =>
          if c = '\x7d' ∧ closable then afterValue rounds opened.tail rest
          else if c = '"' then skipName rest >>= skipOpen rounds opened (.value false)
          else .error .malformed
  | rounds + 1, opened, .separator, text =>
      match opened, dropBlank text with
      | _, [] => .error .endOfInput
      | .list :: outer, c :: rest =>
          if c = ',' then skipOpen rounds opened (.value false) rest
          else if c = ']' then afterValue rounds outer rest
          else .error .malformed
      | .record :: outer, c :: rest =>
          if c = ',' then skipOpen rounds opened (.name false) rest
          else if c = '\x7d' then afterValue rounds outer rest
          else .error .malformed
      | [], _ :: _ => .error .malformed
where
  /-- Goes on after a value: the text is done once no bracket is open. -/
  afterValue (rounds : Nat) (opened : List Bracket) (text : List Char) :
      Except Fault (List Char) :=
    match opened with
    | [] => .ok text
    | _ :: _ => skipOpen rounds opened .separator text

def skipValue (text : List Char) : Except Fault (List Char) :=
  skipOpen (text.length + 1) [] (.value false) text

end TestImpact.Json
