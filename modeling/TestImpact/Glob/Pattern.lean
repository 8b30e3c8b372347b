import TestImpact.Glob.Language
import TestImpact.Glob.Token

/-!
# Patterns for paths

A pattern is written with `?` for one byte, `*` for any bytes, classes in square
brackets, alternatives in braces, and `**` for any directories. What `**` means
hangs on its neighbours: at the front of a pattern or alternative it stands for
leading directories, behind a slash for trailing ones or those in between, and
anywhere else it is two single stars.

Most patterns match by the text of a path alone. Some ask for the last piece of a
path by name or by extension, and the piece `..`, which leads to the directory
above, has neither.
-/

namespace TestImpact.Glob

/-- Why a pattern cannot be read. -/
inductive PatternFault where
  | unclosedClass
  | invalidRange (first last : Char)
  | unopenedAlternatives
  | unclosedAlternatives
  | danglingEscape
  deriving DecidableEq, Repr

def PatternFault.message : PatternFault → String
  | unclosedClass => "unclosed character class; missing ']'"
  | invalidRange first last =>
      "invalid range; '" ++ first.toString ++ "' > '" ++ last.toString ++ "'"
  | unopenedAlternatives =>
      "unopened alternate group; missing '\x7b' (maybe escape '\x7d' with '[\x7d]'?)"
  | unclosedAlternatives =>
      "unclosed alternate group; missing '\x7d' (maybe escape '\x7b' with '[\x7b]'?)"
  | danglingEscape => "dangling '\\'"

/-- Branches under construction, the last part first. -/
structure Branches where
  /-- The branches that are done, the last one first. -/
  finished : List (List Token)
  current : List Token

namespace Branches

def start : Branches := ⟨[], []⟩

def push (branches : Branches) (token : Token) : Branches :=
  { branches with current := token :: branches.current }

def next (branches : Branches) : Branches :=
  ⟨branches.current.reverse :: branches.finished, []⟩

def toList (branches : Branches) : List (List Token) := branches.next.finished.reverse

end Branches

/-- The state of reading: the branches at hand, and those around each open brace,
the innermost first. -/
structure Reading where
  inner : Branches
  outer : List Branches

namespace Reading

def start : Reading := ⟨.start, []⟩

def push (reading : Reading) (token : Token) : Reading :=
  { reading with inner := reading.inner.push token }

def inBraces (reading : Reading) : Bool := !reading.outer.isEmpty

def openBrace (reading : Reading) : Reading := ⟨.start, reading.inner :: reading.outer⟩

def closeBrace (reading : Reading) : Except PatternFault Reading :=
  match reading.outer with
  | [] => .error .unopenedAlternatives
  | around :: outer => .ok ⟨around.push (.alternatives reading.inner.toList), outer⟩

def comma (reading : Reading) : Reading :=
  if reading.inBraces then { reading with inner := reading.inner.next }
  else reading.push (.literal ',')

/-- Puts a part in the place of the last one, unless the last one already covers
whole directories at an end. -/
def replaceLast (reading : Reading) (token : Token) : Reading :=
  match reading.inner.current with
  | [] => reading
  | .leadingDirectories :: _ => reading
  | .trailingPath :: _ => reading
  | _ :: before => { reading with inner := { reading.inner with current := token :: before } }

def finish (reading : Reading) : Except PatternFault (List Token) :=
  if reading.inBraces then .error .unclosedAlternatives
  else .ok reading.inner.current.reverse

def atPieceStart (reading : Reading) (previous : Option Char) : Bool :=
  previous = some '/' ||
    (reading.inBraces && (previous = some ',' || previous = some '\x7b'))

def endsHere (reading : Reading) (next : Option Char) : Bool :=
  next = none || (reading.inBraces && (next = some ',' || next = some '\x7d'))

def twoStars (reading : Reading) : Reading := (reading.push .anything).push .anything

def doubleStar (reading : Reading) (previous next : Option Char) : Reading × Bool :=
  if reading.inner.current.isEmpty then
    if next = none ∨ next = some '/' then (reading.push .leadingDirectories, true)
    else (reading.twoStars, false)
  else if !reading.atPieceStart previous then (reading.twoStars, false)
  else if reading.endsHere next then (reading.replaceLast .trailingPath, false)
  else if next = some '/' then (reading.replaceLast .directoriesBetween, true)
  else (reading.twoStars, false)

end Reading

/-- A class under construction. -/
structure ClassReading where
  negated : Bool
  /-- The ranges so far, the last one first. -/
  ranges : List (Char × Char)
  /-- Whether a hyphen waits for the end of its range. -/
  pending : Bool

namespace ClassReading

def start (negated : Bool) : ClassReading := ⟨negated, [], false⟩

/-- Adds a character: the new end of the last range behind a hyphen, and a member
of its own otherwise. -/
def add (reading : ClassReading) (c : Char) : Except PatternFault ClassReading :=
  match reading.pending, reading.ranges with
  | true, (first, _) :: ranges =>
      if c < first then .error (.invalidRange first c)
      else .ok ⟨reading.negated, (first, c) :: ranges, false⟩
  | _, ranges => .ok ⟨reading.negated, (c, c) :: ranges, false⟩

/-- Reads a hyphen: a member in front or at the end of a range, and otherwise the
sign of a range. -/
def hyphen (reading : ClassReading) : Except PatternFault ClassReading :=
  if reading.ranges.isEmpty ∨ reading.pending then reading.add '-'
  else .ok { reading with pending := true }

def token (reading : ClassReading) : Token :=
  .oneOf reading.negated
    ((if reading.pending then ('-', '-') :: reading.ranges else reading.ranges).reverse)

end ClassReading

mutual

def readPattern (reading : Reading) (previous : Option Char) :
    List Char → Except PatternFault (List Token)
  | [] => reading.finish
  | '*' :: '*' :: '/' :: rest =>
      match reading.doubleStar previous (some '/') with
      | (next, true) => readPattern next (some '/') rest
      | (next, false) => readPattern (next.push (.literal '/')) (some '/') rest
  | '*' :: '*' :: rest =>
      readPattern (reading.doubleStar previous rest.head?).1 (some '*') rest
  | '\\' :: rest =>
      match rest with
      | [] => .error .danglingEscape
      | c :: after => readPattern (reading.push (.literal c)) (some c) after
  | '[' :: '!' :: rest => readClass reading (.start true) rest
  | '[' :: '^' :: rest => readClass reading (.start true) rest
  | '[' :: rest => readClass reading (.start false) rest
  | c :: rest =>
      if c = '\x7d' then
        match reading.closeBrace with
        | .ok next => readPattern next (some c) rest
        | .error fault => .error fault
      else
        let next :=
          if c = '?' then reading.push .single
          else if c = '*' then reading.push .anything
          else if c = '\x7b' then reading.openBrace
          else if c = ',' then reading.comma
          else reading.push (.literal c)
        readPattern next (some c) rest

/-- Reads a class up to its closing bracket; a bracket in front is a member. -/
def readClass (reading : Reading) (members : ClassReading) :
    List Char → Except PatternFault (List Token)
  | [] => .error .unclosedClass
  | c :: rest =>
      if c = ']' ∧ !members.ranges.isEmpty then
        readPattern (reading.push members.token) (some ']') rest
      else
        match if c = '-' then members.hyphen else members.add c with
        | .ok more => readClass reading more rest
        | .error fault => .error fault

end

/-- The bytes that a range of characters covers. Each end contributes all its
bytes, and the range itself runs from the last byte of the first character to the
first byte of the last one. -/
def byteRanges (first last : Char) : List (UInt8 × UInt8) :=
  let members := (bytesOf first ++ bytesOf last).map fun byte => (byte, byte)
  if first = last then members
  else ((bytesOf first).getLastD 0, (bytesOf last).headD 0) :: members

def slash : Language := .byte (.single 0x2F)

mutual

def Token.language : Token → Language
  | .literal c => .exactly (bytesOf c)
  | .single => .byte .every
  | .anything => .anything
  | .leadingDirectories => .either (.either .empty slash) (.concat .anything slash)
  | .trailingPath => .concat slash .anything
  | .directoriesBetween =>
      .either slash (.concat slash (.concat .anything slash))
  | .oneOf negated ranges =>
      .byte ⟨negated, ranges.flatMap fun (first, last) => byteRanges first last⟩
  | .alternatives branches => (languageOfBranches branches).getD .empty

def languageOfRow : List Token → Language
  | [] => .empty
  | token :: rest => .concat token.language (languageOfRow rest)

/-- The paths that branches stand for. A branch that produces nothing does not
count. -/
def languageOfBranches : List (List Token) → Option Language
  | [] => none
  | branch :: rest =>
      let others := languageOfBranches rest
      if isSilentRow branch then others
      else
        match others with
        | none => some (languageOfRow branch)
        | some more => some (.either (languageOfRow branch) more)

end

/-- The paths that a whole pattern stands for; leading directories alone stand for
every path. -/
def languageOfPattern : List Token → Language
  | [.leadingDirectories] => .anything
  | tokens => languageOfRow tokens

def endsInDot : List Token → Bool
  | [] => false
  | [.literal c] => c = '.'
  | _ :: rest => endsInDot rest

/-- Whether a pattern that ends in a literal dot asks for the last piece of a path by
name or by extension. Leading directories before plain text without a slash ask for
the name. Other plain text is compared with the whole path or its end, and so is
plain text behind one star, unless it is a dot alone. All other patterns ask for the
extension. -/
def asksForName (tokens : List Token) : Bool :=
  let (behindDirectories, parts) :=
    match tokens with
    | .leadingDirectories :: rest => (true, rest)
    | _ => (false, tokens)
  match literalText? parts, parts with
  | some text, _ => behindDirectories && !text.contains '/'
  | none, .anything :: rest =>
      match literalText? rest with
      | some text => text = ['.']
      | none => true
  | none, _ => true

/-- A pattern that can be compared with paths. -/
structure Pattern where
  /-- The texts of the paths. -/
  language : Language
  /-- Whether the last piece of a path must have a name. -/
  needsName : Bool
  deriving DecidableEq, Repr

/-- The pattern of a row of parts. A pattern that does not end in a literal dot needs
no name, as far as paths that end in `..` can be among its texts. -/
def Pattern.ofTokens (tokens : List Token) : Pattern :=
  ⟨languageOfPattern tokens, endsInDot tokens && asksForName tokens⟩

def compile (pattern : String) : Except PatternFault Pattern :=
  (readPattern .start none pattern.toList).map Pattern.ofTokens

def hasName (path : String) : Bool :=
  path.toList.reverse.takeWhile (· ≠ '/') ≠ ['.', '.']

def Pattern.containsPath (pattern : Pattern) (path : String) : Bool :=
  (!pattern.needsName || hasName path) &&
    pattern.language.accepts (path.toList.flatMap bytesOf)

end TestImpact.Glob
