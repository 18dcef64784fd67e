/-!
# Writing JSON

Values are written without blanks. In a string, quotes, backslashes and controls are escaped, with one
letter where there is one, and every other character stands for itself.
-/

namespace LogFollow.Json

/-- The lower-case hexadecimal digit of a number below 16. -/
def hexDigit (n : Nat) : Char := (Nat.digitChar n)

/-- A character as it stands in a string. -/
def escapeChar (c : Char) : List Char :=
  if c = '"' then ['\\', '"']
  else if c = '\\' then ['\\', '\\']
  else if c = '\n' then ['\\', 'n']
  else if c = '\r' then ['\\', 'r']
  else if c = '\t' then ['\\', 't']
  else if c = '\x08' then ['\\', 'b']
  else if c = '\x0c' then ['\\', 'f']
  else if c.toNat < 0x20 then
    ['\\', 'u', '0', '0', hexDigit (c.toNat / 16), hexDigit (c.toNat % 16)]
  else [c]

def writeString (s : String) : List Char := '"' :: s.toList.flatMap escapeChar ++ ['"']

def commaSeparated : List (List Char) → List Char
  | [] => []
  | [part] => part
  | part :: rest => part ++ ',' :: commaSeparated rest

def writeList (elements : List (List Char)) : List Char := '[' :: commaSeparated elements ++ [']']

def writeMember (member : String × List Char) : List Char :=
  writeString member.1 ++ ':' :: member.2

def writeObject (members : List (String × List Char)) : List Char :=
  '\x7b' :: commaSeparated (members.map writeMember) ++ ['\x7d']

def writeNat (n : Nat) : List Char := Nat.toDigits 10 n

end LogFollow.Json
