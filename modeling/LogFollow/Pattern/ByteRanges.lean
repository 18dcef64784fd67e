import LogFollow.Pattern.CodeSet

/-!
# Byte ranges of scalars

The UTF-8 forms of the scalars in a range, as sequences of byte ranges. A range is split until all
forms in a part have one length, and any choice of bytes from the ranges of a part is a form in it.
-/

namespace LogFollow.Pattern.ByteRanges

/-- Where a range of scalars is split: at the first length of forms that ends within it, or else around
the first group of continuation bytes that it covers in part. -/
def splitPoint? (lo hi : Nat) : Option Nat :=
  match [0x80, 0x800, 0x10000].find? fun next => lo < next && next ≤ hi with
  | some next => some next
  | none => if hi < 0x80 then none else [64, 4096, 262144].findSome? (aroundBlock? lo hi)
where
  /-- Where a range that leaves a block of the given size must be split so that its parts are made of
  whole blocks. -/
  aroundBlock? (lo hi size : Nat) : Option Nat :=
    if lo / size = hi / size then none
    else if lo % size ≠ 0 then some ((lo / size + 1) * size)
    else if hi % size ≠ size - 1 then some (hi / size * size)
    else none

def form (c : Nat) : List UInt8 :=
  let tail (n : Nat) := UInt8.ofNat (0x80 + c / n % 64)
  if c < 0x80 then [UInt8.ofNat c]
  else if c < 0x800 then [UInt8.ofNat (0xC0 + c / 64), tail 1]
  else if c < 0x10000 then [UInt8.ofNat (0xE0 + c / 4096), tail 64, tail 1]
  else [UInt8.ofNat (0xF0 + c / 262144), tail 4096, tail 64, tail 1]

/-- The sequences of a range that holds no surrogates. -/
def ofScalars (lo hi : Nat) : List (List (UInt8 × UInt8)) :=
  match splitPoint? lo hi with
  | some next =>
    if lo < next ∧ next ≤ hi then ofScalars lo (next - 1) ++ ofScalars next hi
    else [(form lo).zip (form hi)]
  | none => [(form lo).zip (form hi)]
termination_by hi - lo

/-- The sequences of a range, without the surrogates in it. -/
def ofRange (range : Nat × Nat) : List (List (UInt8 × UInt8)) :=
  let (lo, hi) := range
  if lo < 0xE000 ∧ 0xD7FF < hi then
    (if lo ≤ 0xD7FF then ofScalars lo 0xD7FF else []) ++ (if 0xE000 ≤ hi then ofScalars 0xE000 hi else [])
  else ofScalars lo hi

def ofSet (set : CodeSet) : List (List (UInt8 × UInt8)) := set.ranges.flatMap ofRange

end LogFollow.Pattern.ByteRanges
