import TestImpact.Text.Blank
import TestImpact.Text.Search
import TestImpact.Text.Word

/-!
# Reading Go sources

Two things are read off a Go source: the name of its package and the paths that
it imports. Both are found by the form of their clauses, wherever these stand,
so the source need not be complete.
-/

namespace TestImpact.Go

open Text (isBlank isWordChar dropPart? findAll)

def dropBlanks? (text : List Char) : Option (List Char) :=
  match text with
  | c :: rest => if isBlank c then some (rest.dropWhile isBlank) else none
  | [] => none

/-- The name in a package clause at the front of a text, behind any blanks. -/
def packageClause? (text : List Char) : Option (List Char) := do
  let behindWord ← dropPart? "package".toList (text.dropWhile isBlank)
  let name := (← dropBlanks? behindWord).takeWhile isWordChar
  if name.isEmpty then none else some name

def firstPackage? : (atLineStart : Bool) → List Char → Option (List Char)
  | _, [] => none
  | atLineStart, c :: rest =>
      match if atLineStart then packageClause? (c :: rest) else none with
      | some name => some name
      | none => firstPackage? (c = '\n') rest

def packageOf? (source : String) : Option String :=
  (firstPackage? true source.toList).map String.ofList

/-- A path between quotation marks at the front of a text, and what follows. -/
def quotedPath? : List Char → Option (List Char × List Char)
  | '"' :: rest =>
      match rest.span (· ≠ '"') with
      | (path, _ :: after) => if path.isEmpty then none else some (path, after)
      | (_, []) => none
  | _ => none

/-- The inside of an import block at the front of a text, and what follows. -/
def importBlock? (text : List Char) : Option (List Char × List Char) := do
  match (← dropPart? "import".toList text).dropWhile isBlank with
  | '(' :: rest =>
      match rest.span (· ≠ ')') with
      | (inside, _ :: after) => some (inside, after)
      | (_, []) => none
  | _ => none

def isAliasChar (c : Char) : Bool := isWordChar c || c = '.'

/-- The path of an import clause with one path at the front of a text, and what
follows. A name may stand before the path. -/
def importClause? (text : List Char) : Option (List Char × List Char) := do
  let rest ← dropBlanks? (← dropPart? "import".toList text)
  match rest.span isAliasChar with
  | ([], _) => quotedPath? rest
  | (_, behindAlias) => quotedPath? (← dropBlanks? behindAlias)

def lines : List Char → List (List Char)
  | [] => [[]]
  | c :: rest =>
      if c = '\n' then [] :: lines rest
      else
        match lines rest with
        | first :: others => (c :: first) :: others
        | [] => [[c]]

def withoutComment : List Char → List Char
  | [] => []
  | '/' :: '/' :: _ => []
  | c :: rest => c :: withoutComment rest

def pathOnLine? (line : List Char) : Option (List Char) :=
  (findAll quotedPath? 0 (withoutComment line)).head?

/-- The paths that a source imports: those in blocks, and then those in clauses of
one path. -/
def importsOf (source : String) : List String :=
  let blocks := findAll importBlock? 0 source.toList
  let inBlocks := blocks.flatMap fun inside => (lines inside).filterMap pathOnLine?
  let alone := findAll importClause? 0 source.toList
  (inBlocks ++ alone).map String.ofList

end TestImpact.Go
