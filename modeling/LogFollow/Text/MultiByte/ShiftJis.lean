import LogFollow.Text.MultiByte.Index
import LogFollow.Text.Table.JisX0208

/-!
# Shift_JIS

Half-width katakana are single bytes. The pointers between the standard rows and the vendor rows
belong to the private use area.
-/

namespace LogFollow.Text.MultiByte.ShiftJis

/-- The pointer of a lead and a trail byte. -/
def pointer (lead trail : UInt8) : Option Nat :=
  if within 0x40 0x7E trail || within 0x80 0xFC trail then
    let offset := if trail < 0x7F then 0x40 else 0x41
    let leadOffset := if lead < 0xA0 then 0x81 else 0xC1
    some ((lead.toNat - leadOffset) * 188 + (trail.toNat - offset))
  else none

def char (pointer : Nat) : Option Char :=
  if 8836 ≤ pointer ∧ pointer ≤ 10715 then some (charOfCode (0xE000 + (pointer - 8836)))
  else lookup Table.jisX0208 0 pointer

/-- The bytes that stand alone. -/
def single (b : UInt8) : Option Char :=
  if b ≤ 0x80 then some (charOfCode b.toNat)
  else if within 0xA1 0xDF b then some (charOfCode (0xFF61 + (b.toNat - 0xA1)))
  else none

def automaton : Automaton (Option UInt8) :=
  pairAutomaton single (fun b => within 0x81 0x9F b || within 0xE0 0xFC b)
    fun lead trail => ((pointer lead trail).bind char).map ([·])

end LogFollow.Text.MultiByte.ShiftJis
