import TestImpact.Text.EscapeTable

/-!
# Texts in messages

A message shows a text between quotation marks so that it can be told apart from
its surroundings: characters that would not show are given by number.
-/

namespace TestImpact.Text

def isVisible (c : Char) : Bool := !hiddenCodePoints.contains c

def shown (c : Char) : List Char :=
  if c = '\x00' then ['\\', '0']
  else if c = '\t' then ['\\', 't']
  else if c = '\n' then ['\\', 'n']
  else if c = '\r' then ['\\', 'r']
  else if c = '"' then ['\\', '"']
  else if c = '\\' then ['\\', '\\']
  else if isVisible c then [c]
  else '\\' :: 'u' :: '\x7b' :: (Nat.toDigits 16 c.toNat ++ ['\x7d'])

def quoted (text : String) : String :=
  String.ofList ('"' :: (text.toList.flatMap shown ++ ['"']))

end TestImpact.Text
