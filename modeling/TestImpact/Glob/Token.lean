/-!
# Parts of patterns

A pattern is a row of parts. Braces hold rows as alternatives, which may hold braces in
turn. A part that holds nothing but empty alternatives produces nothing.
-/

namespace TestImpact.Glob

/-- A part of a pattern. -/
inductive Token where
  | literal (c : Char)
  /-- One byte. -/
  | single
  /-- Any bytes. -/
  | anything
  /-- Nothing, or a path that ends with a slash. -/
  | leadingDirectories
  /-- A slash and anything behind it. -/
  | trailingPath
  /-- A slash, or anything between two slashes. -/
  | directoriesBetween
  /-- One byte out of ranges of characters, or outside of them. -/
  | oneOf (negated : Bool) (ranges : List (Char × Char))
  | alternatives (branches : List (List Token))

def bytesOf (c : Char) : List UInt8 := String.utf8EncodeChar c

mutual

def Token.isSilent : Token → Bool
  | .alternatives branches => areSilent branches
  | _ => false

def isSilentRow : List Token → Bool
  | [] => true
  | token :: rest => token.isSilent && isSilentRow rest

def areSilent : List (List Token) → Bool
  | [] => true
  | branch :: rest => isSilentRow branch && areSilent rest

end

def literalText? : List Token → Option (List Char)
  | [] => some []
  | .literal c :: rest => (literalText? rest).map (c :: ·)
  | _ :: _ => none

end TestImpact.Glob
