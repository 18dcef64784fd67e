import LogFollow.Text.MultiByte.Index
import LogFollow.Text.Table.Big5

/-!
# Big5

Lead bytes `81` to `FE`, trail bytes `40` to `7E` and `A1` to `FE`. Four pointers stand for a letter
with a combining mark and so for two characters.
-/

namespace LogFollow.Text.MultiByte.Big5

/-- The pointer of a lead and a trail byte. -/
def pointer (lead trail : UInt8) : Option Nat :=
  if within 0x40 0x7E trail || within 0xA1 0xFE trail then
    let offset := if trail < 0x7F then 0x40 else 0x62
    some ((lead.toNat - 0x81) * 157 + (trail.toNat - offset))
  else none

def chars (pointer : Nat) : Option (List Char) :=
  match pointer with
  | 1133 => some ['\u00CA', '\u0304']
  | 1135 => some ['\u00CA', '\u030C']
  | 1164 => some ['\u00EA', '\u0304']
  | 1166 => some ['\u00EA', '\u030C']
  | _ => (lookup Table.big5 942 pointer).map ([·])

def automaton : Automaton (Option UInt8) :=
  pairAutomaton (fun b => if isAscii b then some (ascii b) else none) (within 0x81 0xFE)
    fun lead trail => (pointer lead trail).bind chars

end LogFollow.Text.MultiByte.Big5
