import TestImpact.Text.WordTable

/-!
# Words

A word character is what may stand in a name, in any script.
-/

namespace TestImpact.Text

def isWordChar (c : Char) : Bool :=
  if c.toNat < 0x80 then c.isAlphanum || c = '_' else wordCodePoints.contains c

end TestImpact.Text
