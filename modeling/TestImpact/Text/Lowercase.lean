import TestImpact.Text.CaseTable

/-!
# Lower case

Every character has a lower-case form of its own, save the capital sigma, whose
form at the end of a word differs from the one inside. A word ends at a sigma
when a cased character stands before it and none after it, looking through
characters that carry no case of their own.
-/

namespace TestImpact.Text

/-- Whether the first character that is not looked through carries case. -/
def meetsCased (text : List Char) : Bool :=
  match text.dropWhile fun c => ignoredCodePoints.contains c with
  | [] => false
  | c :: _ => casedCodePoints.contains c

def lowerChar (c : Char) : List Char :=
  if c.toNat < 0x80 then [c.toLower]
  else if c = '\u0130' then ['i', '\u0307']
  else
    match caseRuns.find? fun run =>
      run.first ≤ c.toNat && c.toNat ≤ run.last && (c.toNat - run.first) % run.stride = 0 with
    | some run => [Char.ofNat (c.toNat + run.shift).toNat]
    | none => [c]

/-- Lowers the rest of a text, given the characters before it from the nearest
on. -/
def lowerFrom (before : List Char) : List Char → List Char
  | [] => []
  | c :: rest =>
      let form :=
        if c = '\u03a3' then
          if meetsCased before && !meetsCased rest then ['\u03c2'] else ['\u03c3']
        else lowerChar c
      form ++ lowerFrom (c :: before) rest

def lowercase (text : String) : String := String.ofList (lowerFrom [] text.toList)

def lowercaseAscii (text : String) : String := text.map Char.toLower

end TestImpact.Text
