/-!
# Texts and keys of a TOML document

Texts stand between double quotes, with escapes, or between single quotes, as
they are; three quotes make a text of several lines. Keys are bare words or
texts of one line, put together with dots. What is read is given with the rest
of the document, and nothing is given for what breaks the grammar.
-/

namespace TestImpact.Toml

abbrev Reader (α : Type) := List Char → Option (α × List Char)

def isSpace (c : Char) : Bool := c = ' ' || c = '\t'

def dropSpaces (text : List Char) : List Char := text.dropWhile isSpace

def lineBreak? : List Char → Option (List Char)
  | '\n' :: rest => some rest
  | '\r' :: '\n' :: rest => some rest
  | _ => none

/-- Whether a character may stand in a comment or a text: a tab, or no control. -/
def isPlain (c : Char) : Bool := c = '\t' || (' ' ≤ c && c ≠ '\x7f')

def dropComment : List Char → List Char
  | '#' :: rest => rest.dropWhile isPlain
  | text => text

/-- What is left behind the end of a line: blanks, a comment, and a line break or
the end of the document. -/
def lineEnd? (text : List Char) : Option (List Char) :=
  match dropComment (dropSpaces text) with
  | [] => some []
  | rest => lineBreak? rest

def hexDigit? (c : Char) : Option Nat :=
  if '0' ≤ c ∧ c ≤ '9' then some (c.toNat - '0'.toNat)
  else if 'a' ≤ c ∧ c ≤ 'f' then some (c.toNat - 'a'.toNat + 10)
  else if 'A' ≤ c ∧ c ≤ 'F' then some (c.toNat - 'A'.toNat + 10)
  else none

def charOfHex? (digits : List Char) : Option Char := do
  let value ← digits.foldlM (fun value c => (hexDigit? c).map (value * 16 + ·)) 0
  if value.isValidChar then some (Char.ofNat value) else none

/-- The character that an escape stands for, and how many characters it takes. -/
def escape? : List Char → Option (Char × Nat)
  | 'b' :: _ => some ('\x08', 1)
  | 't' :: _ => some ('\t', 1)
  | 'n' :: _ => some ('\n', 1)
  | 'f' :: _ => some ('\x0c', 1)
  | 'r' :: _ => some ('\r', 1)
  | '"' :: _ => some ('"', 1)
  | '\\' :: _ => some ('\\', 1)
  | 'u' :: rest =>
      if (rest.take 4).length = 4 then (charOfHex? (rest.take 4)).map fun c => (c, 5) else none
  | 'U' :: rest =>
      if (rest.take 8).length = 8 then (charOfHex? (rest.take 8)).map fun c => (c, 9) else none
  | _ => none

def readBasic (text : List Char) : Option (List Char × List Char) :=
  match text with
  | [] => none
  | '"' :: rest => some ([], rest)
  | '\\' :: rest => do
      let (c, taken) ← escape? rest
      let (later, after) ← readBasic (rest.drop taken)
      return (c :: later, after)
  | c :: rest => do
      if isPlain c then
        let (later, after) ← readBasic rest
        return (c :: later, after)
      else none
termination_by text.length
decreasing_by all_goals simp only [List.length_cons, List.length_drop]; omega

def readLiteral (text : List Char) : Option (List Char × List Char) :=
  match text.span (· ≠ '\x27') with
  | (content, _ :: rest) => if content.all isPlain then some (content, rest) else none
  | (_, []) => none

/-- The end of a text of several lines: three quotes, behind at most two that
belong to the text. -/
def closing? (quote : Char) (text : List Char) : Option (List Char × List Char) :=
  let (quotes, rest) := text.span (· = quote)
  if 3 ≤ quotes.length ∧ quotes.length ≤ 5 then some (quotes.drop 3, rest) else none

def closes (quote : Char) (text : List Char) : Bool := (text.take 3) = [quote, quote, quote]

def dropBlankLines : List Char → List Char
  | '\r' :: '\n' :: rest => dropBlankLines rest
  | c :: rest => if isSpace c ∨ c = '\n' then dropBlankLines rest else c :: rest
  | [] => []

theorem length_dropBlankLines_le (text : List Char) :
    (dropBlankLines text).length ≤ text.length := by
  fun_induction dropBlankLines text <;> simp_all <;> omega

/-- What is left behind a line break that a backslash takes out, with all blank
space after it. -/
def escapedBreak? (text : List Char) : Option (List Char) :=
  if (lineBreak? (dropSpaces text)).isSome then some (dropBlankLines text) else none

theorem length_escapedBreak?_le {text rest : List Char}
    (found : escapedBreak? text = some rest) : rest.length ≤ text.length := by
  unfold escapedBreak? at found
  split at found
  · rw [← Option.some.inj found]
    exact length_dropBlankLines_le text
  · cases found

/-- Reads a text of several lines, with escapes, up to its closing quotes. -/
def readLines (text : List Char) : Option (List Char × List Char) :=
  if closes '"' text then closing? '"' text
  else
    match text with
    | [] => none
    | '\\' :: rest =>
        match _found : escapedBreak? rest with
        | some after => readLines after
        | none => do
            let (c, taken) ← escape? rest
            let (later, after) ← readLines (rest.drop taken)
            return (c :: later, after)
    | '\r' :: '\n' :: rest => (readLines rest).map fun (later, after) => ('\n' :: later, after)
    | c :: rest => do
        if isPlain c ∨ c = '\n' then
          let (later, after) ← readLines rest
          return (c :: later, after)
        else none
termination_by text.length
decreasing_by
  · exact Nat.lt_succ_of_le (length_escapedBreak?_le _found)
  all_goals simp only [List.length_cons, List.length_drop]
  all_goals omega

def readLiteralLines (text : List Char) : Option (List Char × List Char) :=
  if closes '\x27' text then closing? '\x27' text
  else
    match text with
    | [] => none
    | '\r' :: '\n' :: rest =>
        (readLiteralLines rest).map fun (later, after) => ('\n' :: later, after)
    | c :: rest => do
        if isPlain c ∨ c = '\n' then
          let (later, after) ← readLiteralLines rest
          return (c :: later, after)
        else none

def dropFirstBreak (text : List Char) : List Char := (lineBreak? text).getD text

def readLineText : Reader String
  | '"' :: rest => (readBasic rest).map fun (text, after) => (String.ofList text, after)
  | '\x27' :: rest => (readLiteral rest).map fun (text, after) => (String.ofList text, after)
  | _ => none

def readText : Reader String
  | '"' :: '"' :: '"' :: rest =>
      (readLines (dropFirstBreak rest)).map fun (text, after) => (String.ofList text, after)
  | '\x27' :: '\x27' :: '\x27' :: rest =>
      (readLiteralLines (dropFirstBreak rest)).map fun (text, after) =>
        (String.ofList text, after)
  | text => readLineText text

def isBareChar (c : Char) : Bool := c.isAlphanum || c = '_' || c = '-'

def readKeyPart : Reader String := fun text =>
  match text.span isBareChar with
  | ([], rest) => readLineText rest
  | (bare, rest) => some (String.ofList bare, rest)

def keyLimit : Nat := 79

def readKeyParts : (limit : Nat) → Reader (List String)
  | 0, _ => none
  | limit + 1, text => do
      let (part, rest) ← readKeyPart (dropSpaces text)
      match dropSpaces rest with
      | '.' :: more => do
          let (parts, after) ← readKeyParts limit more
          return (part :: parts, after)
      | after => return ([part], after)

def readKey : Reader (List String) := readKeyParts keyLimit

end TestImpact.Toml
