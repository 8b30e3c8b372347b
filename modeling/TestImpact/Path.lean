/-!
# File paths

Paths are texts with slashes. Empty pieces and single dots mean nothing, except
that a leading dot keeps its place. The last piece that means something names
the file, unless it is a pair of dots.
-/

namespace TestImpact.Path

def isAbsolute (path : String) : Bool := path.toList.head? = some '/'

def pieces : List Char → List (List Char)
  | [] => [[]]
  | c :: rest =>
      if c = '/' then [] :: pieces rest
      else
        match pieces rest with
        | first :: others => (c :: first) :: others
        | [] => [[c]]

def joined (parts : List (List Char)) : List Char := ['/'].intercalate parts

def isIdle (piece : List Char) : Bool := piece.isEmpty || piece = ['.']

def splitHead : List Char → List Char × List Char
  | '/' :: rest => (['/'], rest)
  | ['.'] => (['.'], [])
  | '.' :: '/' :: rest => (['.'], '/' :: rest)
  | path => ([], path)

def lastPiece? (path : List Char) : Option (List Char × List (List Char)) :=
  match (pieces (splitHead path).2).reverse.dropWhile isIdle with
  | [] => none
  | last :: before => some (last, (before.dropWhile isIdle).reverse)

def fileName? (path : String) : Option String :=
  match lastPiece? path.toList with
  | some (last, _) => if last = ['.', '.'] then none else some (String.ofList last)
  | none => none

/-- The name of the file that a path leads to, or the whole path without one. -/
def displayName (path : String) : String := (fileName? path).getD path

def parent? (path : String) : Option String :=
  let head := (splitHead path.toList).1
  match lastPiece? path.toList with
  | some (_, before) => some (String.ofList (head ++ joined before))
  | none => if head = ['.'] then some "" else none

def splitExtension (name : List Char) : List Char × Option (List Char) :=
  let (reversed, rest) := name.reverse.span (· ≠ '.')
  match rest with
  | _ :: before =>
      if before.isEmpty then (name, none) else (before.reverse, some reversed.reverse)
  | [] => (name, none)

def extension? (path : String) : Option String :=
  (fileName? path).bind fun name => (splitExtension name.toList).2.map String.ofList

def stem? (path : String) : Option String :=
  (fileName? path).map fun name => String.ofList (splitExtension name.toList).1

def join (directory path : String) : String :=
  if isAbsolute path then path
  else
    match directory.toList.getLast? with
    | none => path
    | some last => if last = '/' then directory ++ path else directory ++ "/" ++ path

end TestImpact.Path
