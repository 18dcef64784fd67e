import LogFollow.Text.MultiByte.Index
import LogFollow.Text.Table.JisX0208
import LogFollow.Text.Table.JisX0212

/-!
# EUC-JP

Two bytes select a character of JIS X 0208. After `8E` one byte selects a half-width katakana, after
`8F` two bytes select a character of JIS X 0212.
-/

namespace LogFollow.Text.MultiByte.EucJp

/-- What is open: a lead byte, and whether `8F` stands before it. -/
structure Pending where
  lead : Option UInt8 := none
  supplement : Bool := false
deriving DecidableEq, Repr

def char (supplement : Bool) (lead trail : UInt8) : Option Char :=
  if within 0xA1 0xFE lead && within 0xA1 0xFE trail then
    let pointer := (lead.toNat - 0xA1) * 94 + (trail.toNat - 0xA1)
    if supplement then lookup Table.jisX0212 108 pointer else lookup Table.jisX0208 0 pointer
  else none

def automaton : Automaton Pending where
  start := {}
  step s b :=
    match s.lead with
    | some lead =>
      if lead = 0x8E && within 0xA1 0xDF b then ([charOfCode (0xFF61 + (b.toNat - 0xA1))], {})
      else if lead = 0x8F && within 0xA1 0xFE b then ([], { lead := some b, supplement := true })
      else
        match char s.supplement lead b with
        | some c => ([c], {})
        | none => (unpaired b, {})
    | none =>
      if isAscii b then ([ascii b], {})
      else if b = 0x8E || b = 0x8F || within 0xA1 0xFE b then ([], { lead := some b })
      else ([replacement], {})
  flush s := if s.lead.isSome then [replacement] else []

end LogFollow.Text.MultiByte.EucJp
