import LogFollow.Text.Automaton

/-!
# UTF-16

Code units of two bytes, in either byte order. A pair of surrogates is one character; a surrogate
without its partner, and an odd byte at the end, are malformed.
-/

namespace LogFollow.Text.Utf16

/-- The order of the two bytes of a code unit. -/
inductive ByteOrder
  | little
  | big
deriving DecidableEq, Repr

/-- The code unit of two bytes in file order. -/
def ByteOrder.unit (order : ByteOrder) (first second : UInt8) : Nat :=
  match order with
  | .little => second.toNat * 256 + first.toNat
  | .big => first.toNat * 256 + second.toNat

/-- What is open: a leading surrogate, and the first byte of a code unit. -/
structure Pending where
  surrogate : Option Nat := none
  byte : Option UInt8 := none
deriving DecidableEq, Repr

/-- A code unit where no surrogate is open. -/
def stepUnit (unit : Nat) : List Char × Pending :=
  if 0xD800 ≤ unit ∧ unit ≤ 0xDBFF then ([], { surrogate := some unit })
  else if 0xDC00 ≤ unit ∧ unit ≤ 0xDFFF then ([replacement], {})
  else ([charOfCode unit], {})

def automaton (order : ByteOrder) : Automaton Pending where
  start := {}
  step s b :=
    match s.byte with
    | none => ([], { s with byte := some b })
    | some first =>
      let unit := order.unit first b
      match s.surrogate with
      | none => stepUnit unit
      | some high =>
        if 0xDC00 ≤ unit ∧ unit ≤ 0xDFFF then
          ([charOfCode (0x10000 + (high - 0xD800) * 0x400 + (unit - 0xDC00))], {})
        else
          let (out, s') := stepUnit unit
          (replacement :: out, s')
  flush s := if s.surrogate.isSome || s.byte.isSome then [replacement] else []

end LogFollow.Text.Utf16
