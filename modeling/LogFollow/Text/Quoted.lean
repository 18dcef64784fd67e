import LogFollow.Pattern.CodeSet
import LogFollow.Text.Table.Hidden

/-!
# Quoted text

How a text is shown inside a message: between quotes, with quotes, backslashes and the characters that
cannot be seen on their own written as escapes.
-/

namespace LogFollow.Text.Quoted

/-- The characters beyond ASCII that are shown as escapes. -/
def hidden : Pattern.CodeSet := Pattern.CodeSet.ofRow Table.hidden

/-- Whether a character beyond ASCII is shown as an escape: it cannot be seen, or it joins the
character before it. -/
def isHidden (c : Char) : Bool := hidden.contains c.toNat

/-- A character as it stands between quotes. -/
def escape (c : Char) : List Char :=
  let code := fun (_ : Unit) =>
    '\\' :: 'u' :: '\x7b' :: Nat.toDigits 16 c.toNat ++ ['\x7d']
  if c = '"' then ['\\', '"']
  else if c = '\\' then ['\\', '\\']
  else if c = '\n' then ['\\', 'n']
  else if c = '\r' then ['\\', 'r']
  else if c = '\t' then ['\\', 't']
  else if c = '\x00' then ['\\', '0']
  else if c.toNat < 0x20 ∨ c.toNat = 0x7F then code ()
  else if c.toNat < 0x7F then [c]
  else if isHidden c then code ()
  else [c]

def render (s : String) : String :=
  String.ofList ('"' :: s.toList.flatMap escape ++ ['"'])

end LogFollow.Text.Quoted
