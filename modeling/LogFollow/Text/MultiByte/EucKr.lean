import LogFollow.Text.MultiByte.Index
import LogFollow.Text.Table.EucKr

/-!
# EUC-KR

Lead bytes `81` to `FE`, trail bytes `41` to `FE`.
-/

namespace LogFollow.Text.MultiByte.EucKr

/-- The pointer of a lead and a trail byte. -/
def pointer (lead trail : UInt8) : Option Nat :=
  if within 0x41 0xFE trail then some ((lead.toNat - 0x81) * 190 + (trail.toNat - 0x41)) else none

def automaton : Automaton (Option UInt8) :=
  pairAutomaton (fun b => if isAscii b then some (ascii b) else none) (within 0x81 0xFE)
    fun lead trail => ((pointer lead trail).bind (lookup Table.eucKr 0)).map ([·])

end LogFollow.Text.MultiByte.EucKr
