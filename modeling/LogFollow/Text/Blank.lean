/-!
# Blank characters

The characters that count as white space in text, and text without them at its ends.
-/

namespace LogFollow.Text

/-- Whether a character is white space: the spaces and line breaks of ASCII and of the other scripts,
without the joiners and the zero-width space. -/
def isBlank (c : Char) : Bool :=
  (0x9 ≤ c.toNat && c.toNat ≤ 0xD) || c.toNat == 0x20 || c.toNat == 0x85 || c.toNat == 0xA0 ||
  c.toNat == 0x1680 || (0x2000 ≤ c.toNat && c.toNat ≤ 0x200A) || c.toNat == 0x2028 ||
  c.toNat == 0x2029 || c.toNat == 0x202F || c.toNat == 0x205F || c.toNat == 0x3000

def trim (s : String) : String :=
  String.ofList ((s.toList.dropWhile isBlank).reverse.dropWhile isBlank).reverse

/-- The lower case of an ASCII letter; any other character is left as it is. -/
def lowerAscii (c : Char) : Char :=
  if 'A' ≤ c ∧ c ≤ 'Z' then Char.ofNat (c.toNat + 32) else c

def toLowerAscii (s : String) : String := String.ofList (s.toList.map lowerAscii)

end LogFollow.Text
