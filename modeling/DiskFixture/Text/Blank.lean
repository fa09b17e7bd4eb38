import DiskFixture.Text.Pieces

/-!
Blank characters: the white space of Unicode together with the four information separators. Text is
stripped of them at both ends, and cut into fields at every run of them.
-/

namespace DiskFixture.Text

/-- The characters between fields. -/
def isBlank (c : Char) : Bool :=
  let code := c.toNat
  (9 ≤ code && code ≤ 13) || (28 ≤ code && code ≤ 32) || code == 0x85 || code == 0xA0
    || code == 0x1680 || (0x2000 ≤ code && code ≤ 0x200A) || code == 0x2028 || code == 0x2029
    || code == 0x202F || code == 0x205F || code == 0x3000

def strip (text : String) : String :=
  String.ofList (trim isBlank text.toList)

/-- The maximal runs of characters that are not blank, from left to right. -/
def fields (text : String) : List String :=
  ((pieces isBlank text.toList).filter (!·.isEmpty)).map String.ofList

end DiskFixture.Text
