import Conform.Text.CaseTable

/-!
Letter case of characters, over the whole of Unicode.
-/

namespace Conform.Text

def isUppercase (c : Char) : Bool :=
  if c.toNat < 128 then c.isUpper else uppercaseTable.any (·.contains c.toNat)

def isLowercase (c : Char) : Bool :=
  if c.toNat < 128 then c.isLower else lowercaseTable.any (·.contains c.toNat)

/-- The lowercase form of a character. Only a capital I with a dot has one of two characters:
the dot stays behind as a mark of its own. -/
def lowercase (c : Char) : List Char :=
  if c.toNat < 128 then [c.toLower]
  else if c = 'İ' then ['i', Char.ofNat 0x307]
  else
    match lowerMapTable.find? fun entry => entry.1.contains c.toNat with
    | some (_, distance) => [Char.ofNat (c.toNat + distance).toNat]
    | none => [c]

end Conform.Text
