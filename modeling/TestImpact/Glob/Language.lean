/-!
# Languages of bytes

A language is a set of byte strings given by an expression. Reading one byte
turns an expression into the finitely many expressions for what may follow it,
so membership is decided by keeping the list of these while going through the
string once.
-/

namespace TestImpact.Glob

/-- A set of bytes: ranges, both ends included, or everything outside them. -/
structure ByteSet where
  negated : Bool
  ranges : List (UInt8 × UInt8)
  deriving DecidableEq, Repr

namespace ByteSet

def contains (set : ByteSet) (byte : UInt8) : Bool :=
  (set.ranges.any fun (first, last) => first ≤ byte && byte ≤ last) != set.negated

def every : ByteSet := ⟨true, []⟩

def single (byte : UInt8) : ByteSet := ⟨false, [(byte, byte)]⟩

end ByteSet

/-- An expression for a language of bytes. -/
inductive Language where
  /-- The empty string alone. -/
  | empty
  /-- The strings of one byte out of a set. -/
  | byte (set : ByteSet)
  | concat (first second : Language)
  | either (first second : Language)
  | repeated (part : Language)
  deriving DecidableEq, Repr

namespace Language

def anything : Language := repeated (byte .every)

def exactly : List UInt8 → Language
  | [] => empty
  | first :: rest => concat (byte (.single first)) (exactly rest)

def acceptsEmpty : Language → Bool
  | empty => true
  | byte _ => false
  | concat first second => first.acceptsEmpty && second.acceptsEmpty
  | either first second => first.acceptsEmpty || second.acceptsEmpty
  | repeated _ => true

def followedBy : Language → Language → Language
  | empty, second => second
  | first, second => concat first second

def afterByte (given : UInt8) : Language → List Language
  | empty => []
  | byte set => if set.contains given then [empty] else []
  | concat first second =>
      (first.afterByte given).map (·.followedBy second) ++
        (if first.acceptsEmpty then second.afterByte given else [])
  | either first second => first.afterByte given ++ second.afterByte given
  | repeated part => (part.afterByte given).map (·.followedBy (repeated part))

def acceptsAny : List Language → List UInt8 → Bool
  | languages, [] => languages.any acceptsEmpty
  | languages, given :: rest =>
      acceptsAny (languages.flatMap (afterByte given)).eraseDups rest

def accepts (language : Language) (string : List UInt8) : Bool := acceptsAny [language] string

end Language

end TestImpact.Glob
