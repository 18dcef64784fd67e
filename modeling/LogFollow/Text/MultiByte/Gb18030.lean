import LogFollow.Text.MultiByte.Index
import LogFollow.Text.Table.Gb18030
import LogFollow.Text.Table.Gb18030Ranges

/-!
# GB18030 and GBK

Two bytes select a character of the index. Four bytes, the second and fourth of them digits, select
a character of the ranges that the index leaves out. GBK is decoded in the same way.
-/

namespace LogFollow.Text.MultiByte.Gb18030

inductive Pending
  | none
  | first (b₁ : UInt8)
  | second (b₁ b₂ : UInt8)
  | third (b₁ b₂ b₃ : UInt8)
deriving DecidableEq, Repr

def isDigit (b : UInt8) : Bool := within 0x30 0x39 b

def pair (lead trail : UInt8) : Option Char :=
  if within 0x40 0x7E trail || within 0x80 0xFE trail then
    let offset := if trail < 0x7F then 0x40 else 0x41
    lookup Table.gb18030 0 ((lead.toNat - 0x81) * 190 + (trail.toNat - offset))
  else none

/-- The pointer of four bytes. -/
def fourPointer (b₁ b₂ b₃ b₄ : UInt8) : Nat :=
  (b₁.toNat - 0x81) * 12600 + (b₂.toNat - 0x30) * 1260 + (b₃.toNat - 0x81) * 10 + (b₄.toNat - 0x30)

/-- The character of a four-byte pointer. -/
def ranged (pointer : Nat) : Option Char :=
  if (39419 < pointer ∧ pointer < 189000) ∨ 1237575 < pointer then Option.none
  else if pointer = 7457 then some '\uE7C7'
  else (Table.gb18030Ranges.filter (·.1 ≤ pointer)).getLast?.map fun (first, code) =>
    charOfCode (code + (pointer - first))

/-- A byte where no sequence is open. -/
def stepStart (b : UInt8) : List Char × Pending :=
  if isAscii b then ([ascii b], .none)
  else if b = 0x80 then (['\u20AC'], .none)
  else if b = 0xFF then ([replacement], .none)
  else ([], .first b)

/-- A byte after a lead byte, when it is no digit. -/
def stepPair (lead b : UInt8) : List Char × Pending :=
  match pair lead b with
  | some c => ([c], .none)
  | none => (unpaired b, .none)

def automaton : Automaton Pending where
  start := .none
  step
    | .none, b => stepStart b
    | .first b₁, b => if isDigit b then ([], .second b₁ b) else stepPair b₁ b
    | .second b₁ b₂, b =>
      if within 0x81 0xFE b then ([], .third b₁ b₂ b)
      else
        let (out, s) := stepStart b
        (replacement :: ascii b₂ :: out, s)
    | .third b₁ b₂ b₃, b =>
      if isDigit b then ([(ranged (fourPointer b₁ b₂ b₃ b)).getD replacement], .none)
      else
        let (out, s) := stepPair b₃ b
        (replacement :: ascii b₂ :: out, s)
  flush
    | .none => []
    | _ => [replacement]

end LogFollow.Text.MultiByte.Gb18030
