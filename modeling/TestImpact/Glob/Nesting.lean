import TestImpact.Glob.Token

/-!
# How deep patterns are nested

Patterns that are compared together are put into one form as regular expressions, which may
be nested only so deep. Groups, alternatives, repetitions, classes and rows of more than one
atom each add a level. Plain text, alone or beside one star or directories, and a pattern
that ends in an extension are not compared in this way.
-/

namespace TestImpact.Glob

def itemCount (ranges : List (Char × Char)) : Nat :=
  ranges.foldl
    (fun count (first, last) =>
      count + (bytesOf first).length + if first = last then 0 else (bytesOf last).length - 1)
    0

def Token.atomCount : Token → Nat
  | .literal c => (bytesOf c).length
  | .trailingPath => 2
  | .alternatives branches => if areSilent branches then 0 else 1
  | _ => 1

def rowLevel (tokens : List Token) : Nat :=
  if tokens.foldl (fun count token => count + token.atomCount) 0 ≤ 1 then 0 else 1

/-- The levels of a group: its own, and another if there is a choice. A group without
branches is not written. -/
def groupLevels (branches : List (List Token)) : Nat :=
  min ((branches.filter fun branch => !isSilentRow branch).length) 2

mutual

def Token.nesting : Token → Nat
  | .literal _ => 0
  | .single => 0
  | .anything => 1
  | .trailingPath => 1
  | .leadingDirectories => 4
  | .directoriesBetween => 4
  | .oneOf _ ranges => if itemCount ranges ≤ 1 then 1 else 2
  | .alternatives branches => groupLevels branches + nestingOfBranches branches

def nestingOfParts : List Token → Nat
  | [] => 0
  | token :: rest => max token.nesting (nestingOfParts rest)

def nestingOfBranches : List (List Token) → Nat
  | [] => 0
  | branch :: rest => max (rowLevel branch + nestingOfParts branch) (nestingOfBranches rest)

end

/-- Whether a pattern is plain text with one star or with directories behind. -/
def startsPlainly (tokens : List Token) : Bool :=
  match tokens.reverse with
  | .trailingPath :: front => (literalText? front.reverse).isSome
  | .anything :: front => (literalText? front.reverse).any (!·.isEmpty)
  | _ => false

/-- Whether a pattern is plain text, with directories or one star in front. -/
def endsPlainly (tokens : List Token) : Bool :=
  match tokens with
  | .leadingDirectories :: .anything :: text | .anything :: text =>
      (literalText? text).any fun plain => !plain.isEmpty && plain ≠ ['/']
  | .leadingDirectories :: text | text => (literalText? text).any (!·.isEmpty)

def endsInExtension (tokens : List Token) : Bool :=
  match tokens.reverse.dropWhile fun
    | .literal c => c ≠ '.' ∧ c ≠ '/'
    | _ => false with
  | .literal '.' :: _ => true
  | _ => false

/-- How deep a pattern is nested, if it is compared together with others. -/
def nestingOfPattern? (tokens : List Token) : Option Nat :=
  if startsPlainly tokens || endsPlainly tokens || endsInExtension tokens then none
  else
    match tokens with
    | [.leadingDirectories] => some 2
    | _ => some (1 + nestingOfParts tokens)

end TestImpact.Glob
