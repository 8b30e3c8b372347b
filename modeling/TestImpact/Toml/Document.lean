import TestImpact.Toml.Table

/-!
# TOML documents

A document is read line by line: keys with their values, and headers that say in
which table the keys that follow belong. Arrays and tables in braces may hold one
another up to a fixed depth.
-/

namespace TestImpact.Toml

def nestingLimit : Nat := 79

/-- Drops blanks, line breaks and comments. Every round takes a character, so the
length of the text bounds the rounds. -/
def dropFiller : (rounds : Nat) → List Char → Option (List Char)
  | 0, text => some text
  | rounds + 1, text =>
      match dropBlankLines text with
      | '#' :: rest =>
          match dropComment ('#' :: rest) with
          | [] => some []
          | behind => do dropFiller rounds (← lineBreak? behind)
      | after => some after

def readItems (item : Reader Node) : (rounds : Nat) → Reader (List Node)
  | 0, _ => none
  | rounds + 1, text => do
      match ← dropFiller text.length text with
      | ']' :: rest => return ([], rest)
      | start =>
          let (node, after) ← item start
          match ← dropFiller after.length after with
          | ',' :: rest =>
              let (nodes, ending) ← readItems item rounds rest
              return (node :: nodes, ending)
          | ']' :: rest => return ([node], rest)
          | _ => none

def readPair (value : Reader Node) : Reader (List String × Node) := fun text => do
  let (path, rest) ← readKey text
  match dropSpaces rest with
  | '=' :: behind =>
      let (node, after) ← value (dropSpaces behind)
      return ((path, node), after)
  | _ => none

def readPairs (value : Reader Node) : (rounds : Nat) → Entries → Reader Entries
  | 0, _, _ => none
  | rounds + 1, entries, text => do
      let ((path, node), after) ← readPair value text
      let added ← addValue path node entries
      match dropSpaces after with
      | ',' :: rest => readPairs value rounds added rest
      | '\x7d' :: rest => return (added, rest)
      | _ => none

/-- Reads a value in which arrays and tables in braces may stand in each other to a
depth below the given one. -/
def readValue : (depth : Nat) → Reader Node
  | 0, _ => none
  | depth + 1, text =>
      match text with
      | '[' :: rest => do
          if depth = 0 then none
          else
            let (items, after) ← readItems (readValue depth) (rest.length + 1) rest
            return (.array items, after)
      | '\x7b' :: rest => do
          if depth = 0 then none
          else
            match dropSpaces rest with
            | '\x7d' :: after => return (.inline [], after)
            | start =>
                let (entries, after) ← readPairs (readValue depth) (start.length + 1) [] start
                return (.inline entries, after)
      | _ => (readScalar text).map fun (scalar, rest) => (.scalar scalar, rest)

def readHeader (closing : List Char) (text : List Char) :
    Option (List String × List Char) := do
  let (path, rest) ← readKey text
  let behind := dropSpaces rest
  if closing.isPrefixOf behind then return (path, behind.drop closing.length) else none

/-- Reads lines into the tables of a document. Keys belong to the table of the last
header. Every line takes a character, so the length of the text bounds the rounds. -/
def readRows : (rounds : Nat) → (current : List String) → Entries → List Char →
    Option Entries
  | 0, _, _, _ => none
  | rounds + 1, current, entries, text =>
      match dropSpaces text with
      | [] => some entries
      | '[' :: '[' :: rest => do
          let (path, after) ← readHeader [']', ']'] rest
          readRows rounds path (← addRow path entries) (← lineEnd? after)
      | '[' :: rest => do
          let (path, after) ← readHeader [']'] rest
          readRows rounds path (← defineTable path entries) (← lineEnd? after)
      | start =>
          match lineEnd? start with
          | some after => readRows rounds current entries after
          | none => do
              let ((path, node), after) ← readPair (readValue (nestingLimit + 1)) start
              readRows rounds current (← addUnder current path node entries)
                (← lineEnd? after)

def parse (document : String) : Option Entries :=
  let text := match document.toList with
    | '\ufeff' :: rest => rest
    | text => text
  readRows (text.length + 1) [] [] text

end TestImpact.Toml
