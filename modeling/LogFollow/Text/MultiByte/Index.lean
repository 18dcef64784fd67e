import LogFollow.Text.Automaton

/-!
# Character sets with an index

The East Asian character sets pair a lead byte with a trail byte, compute a pointer from the two, and
look the pointer up in an index. What differs between them is which bytes lead and trail, and how the
pointer is computed.
-/

namespace LogFollow.Text.MultiByte

/-- The character at `pointer` of an index whose first cell has pointer `base`. U+FFFD marks a cell
without a character. -/
def lookup (index : Array Char) (base pointer : Nat) : Option Char :=
  if pointer < base then none
  else (index[pointer - base]?).filter (· != replacement)

def isAscii (b : UInt8) : Bool := b < 0x80

def ascii (b : UInt8) : Char := Char.ofNat b.toNat

def within (lo hi b : UInt8) : Bool := lo ≤ b && b ≤ hi

/-- What becomes of a lead and trail byte without a character: an ASCII trail byte is kept. -/
def unpaired (trail : UInt8) : List Char :=
  if isAscii trail then [replacement, ascii trail] else [replacement]

/-- The automaton of a character set whose only state is a pending lead byte. `single b` is what the
byte `b` stands for where no sequence is open, if it leads none; `leads` tells the lead bytes; `pair`
gives the characters of a lead and a trail byte, if there are any. -/
def pairAutomaton (single : UInt8 → Option Char) (leads : UInt8 → Bool)
    (pair : UInt8 → UInt8 → Option (List Char)) : Automaton (Option UInt8) where
  start := none
  step
    | none, b =>
      match single b with
      | some c => ([c], none)
      | none => if leads b then ([], some b) else ([replacement], none)
    | some lead, b => ((pair lead b).getD (unpaired b), none)
  flush s := if s.isSome then [replacement] else []

end LogFollow.Text.MultiByte
