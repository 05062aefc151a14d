/-!
White space in the sense of Unicode, and texts without it at their ends.
-/

namespace Conform.Text

/-- Characters with the `White_Space` property. -/
def isBlank (c : Char) : Bool :=
  let n := c.toNat
  (9 ≤ n && n ≤ 13) || n = 0x20 || n = 0x85 || n = 0xA0 || n = 0x1680 ||
    (0x2000 ≤ n && n ≤ 0x200A) || n = 0x2028 || n = 0x2029 || n = 0x202F || n = 0x205F ||
    n = 0x3000

/-- A list without its last elements that satisfy a test. -/
def dropTrailing (p : Char → Bool) (cs : List Char) : List Char :=
  (cs.reverse.dropWhile p).reverse

def trim (cs : List Char) : List Char := dropTrailing isBlank (cs.dropWhile isBlank)

/-- Nothing is left once white space is removed. -/
def allBlank (s : String) : Bool := s.toList.all isBlank

end Conform.Text
