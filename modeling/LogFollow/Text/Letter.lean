import LogFollow.Pattern.CodeSet
import LogFollow.Text.Table.Letter

/-!
# Letters

The letters and numbers of all scripts, from which names are made.
-/

namespace LogFollow.Text.Letter

def alphabetic : Pattern.CodeSet := Pattern.CodeSet.ofRow Table.alphabetic

/-- The characters that stand for numbers. -/
def numeric : Pattern.CodeSet := Pattern.CodeSet.ofRow Table.numeric

def isAlphabetic (c : Char) : Bool := alphabetic.contains c.toNat

/-- Whether a character is alphabetic or stands for a number. -/
def isAlphanumeric (c : Char) : Bool := isAlphabetic c || numeric.contains c.toNat

end LogFollow.Text.Letter
