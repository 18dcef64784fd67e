/-!
# Sets of code points

A set of code points, or of bytes, as inclusive ranges in increasing order. The operations keep the
ranges in order and apart, so membership can stop at the first range past the code point.
-/

namespace LogFollow.Pattern

/-- A set of numbers given by inclusive ranges. -/
structure CodeSet where
  ranges : List (Nat × Nat)
deriving DecidableEq, Repr

namespace CodeSet

/-- Whether `c` lies in one of the ranges, which are in increasing order. -/
def memberOf (c : Nat) : List (Nat × Nat) → Bool
  | [] => false
  | (lo, hi) :: rest => lo ≤ c && (c ≤ hi || memberOf c rest)

def contains (s : CodeSet) (c : Nat) : Bool := memberOf c s.ranges

/-- Joins ranges that touch or overlap; the ranges are ordered by their lower ends. -/
def join : List (Nat × Nat) → List (Nat × Nat)
  | [] => []
  | r :: rest =>
    match join rest with
    | [] => [r]
    | (lo, hi) :: more =>
      if lo ≤ r.2 + 1 then (r.1, max r.2 hi) :: more else r :: (lo, hi) :: more

/-- The set covered by ranges in any order. -/
def ofRanges (ranges : List (Nat × Nat)) : CodeSet :=
  ⟨join (ranges.mergeSort fun a b => a.1 ≤ b.1)⟩

def singleton (c : Nat) : CodeSet := ⟨[(c, c)]⟩

def empty : CodeSet := ⟨[]⟩

def union (a b : CodeSet) : CodeSet := ofRanges (a.ranges ++ b.ranges)

/-- The code point after another. Surrogates are passed over. -/
def after (c : Nat) : Nat := if c = 0xD7FF then 0xE000 else c + 1

/-- The code point before another. Surrogates are passed over. -/
def before (c : Nat) : Nat := if c = 0xE000 then 0xD7FF else c - 1

/-- The gaps behind `last` and up to `top` that the ranges leave. A gap that holds nothing but the
surrogates counts as the two code points beside them. -/
def gaps (top : Nat) (last : Nat) : List (Nat × Nat) → List (Nat × Nat)
  | [] => if last < top then [(after last, top)] else []
  | (lo, hi) :: rest =>
    (min (after last) (before lo), max (after last) (before lo)) :: gaps top hi rest

/-- The numbers up to `top` that are not in the set. -/
def complement (top : Nat) (s : CodeSet) : CodeSet :=
  match s.ranges with
  | [] => ⟨[(0, top)]⟩
  | (lo, hi) :: rest =>
    let inner := gaps top hi rest
    ⟨if 0 < lo then (0, before lo) :: inner else inner⟩

/-- The ranges that two lists of ranges have in common. -/
def common : List (Nat × Nat) → List (Nat × Nat) → List (Nat × Nat)
  | [], _ => []
  | _, [] => []
  | (a, b) :: xs, (c, d) :: ys =>
    let rest := if b < d then common xs ((c, d) :: ys) else common ((a, b) :: xs) ys
    if max a c ≤ min b d then (max a c, min b d) :: rest else rest
termination_by xs ys => xs.length + ys.length

def inter (a b : CodeSet) : CodeSet := ⟨common a.ranges b.ranges⟩

/-- The parts of the range from `lo` to `hi` that are in none of the ranges. -/
def cut (lo hi : Nat) : List (Nat × Nat) → List (Nat × Nat)
  | [] => [(lo, hi)]
  | (c, d) :: rest =>
    if d < lo then cut lo hi rest
    else if hi < c then [(lo, hi)]
    else
      let right := if d < hi then cut (after d) hi rest else []
      if lo < c then (lo, before c) :: right else right

def diff (a b : CodeSet) : CodeSet := ⟨a.ranges.flatMap fun r => cut r.1 r.2 b.ranges⟩

def symmDiff (a b : CodeSet) : CodeSet := diff (union a b) (inter a b)

def isBelow (bound : Nat) (s : CodeSet) : Bool := s.ranges.all fun r => r.2 ≤ bound

def hexDigit (c : Char) : Option Nat :=
  if '0' ≤ c ∧ c ≤ '9' then some (c.toNat - 48)
  else if 'A' ≤ c ∧ c ≤ 'F' then some (c.toNat - 55)
  else if 'a' ≤ c ∧ c ≤ 'f' then some (c.toNat - 87)
  else none

def ofHex (digits : List Char) : Nat := digits.foldl (fun n c => n * 16 + (hexDigit c).getD 0) 0

/-- The words of a table row, parted by blanks and line breaks; `word` holds the characters so far of
the current word, the last one first. -/
def wordsFrom (word : List Char) : List Char → List (List Char)
  | [] => if word.isEmpty then [] else [word.reverse]
  | c :: rest =>
    if c = ' ' ∨ c = '\n' then
      if word.isEmpty then wordsFrom [] rest else word.reverse :: wordsFrom [] rest
    else wordsFrom (c :: word) rest

def words (row : String) : List (List Char) := wordsFrom [] row.toList

/-- The range that a word of a table row stands for: a number, or two numbers joined by a dash. -/
def readRange (word : List Char) : Nat × Nat :=
  match word.span (· != '-') with
  | (low, []) => (ofHex low, ofHex low)
  | (low, _ :: high) => (ofHex low, ofHex high)

/-- The set that a table row lists. -/
def ofRow (row : String) : CodeSet := ⟨(words row).map readRange⟩

end CodeSet

def lastScalar : Nat := 0x10FFFF

end LogFollow.Pattern
