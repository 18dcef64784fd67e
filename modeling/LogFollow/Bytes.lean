/-!
# Byte strings

File contents, tokens and stored records are lists of bytes. This module holds the few operations on
them that the rest of the library shares: cutting a slice out of a byte string, and finding where a
code unit stands when only multiples of its width count as places.
-/

namespace LogFollow

abbrev Bytes := List UInt8

/-- The bytes from index `start` up to, and without, index `stop`. -/
structure Span where
  start : Nat
  stop : Nat
deriving DecidableEq, Repr

namespace Span

def size (s : Span) : Nat := s.stop - s.start

end Span

namespace Bytes

def reaches : (data : Bytes) → (n : Nat) → Bool
  | _, 0 => true
  | [], _ + 1 => false
  | _ :: rest, n + 1 => reaches rest n

/-- The bytes from index `start` up to, and without, index `stop`. -/
def slice (data : Bytes) (start stop : Nat) : Bytes :=
  (data.drop start).take (stop - start)

/-- `alignedIndexFrom i unit width data` looks for `unit` in `data`, whose first byte has index `i`,
at the indices that are multiples of `width`. -/
def alignedIndexFrom (i : Nat) (unit : Bytes) (width : Nat) : Bytes → Option Nat
  | [] => none
  | b :: rest =>
    if i % width = 0 ∧ unit.isPrefixOf (b :: rest) then some i
    else alignedIndexFrom (i + 1) unit width rest

/-- The first multiple of `width` at which `unit` stands in `data`. -/
def alignedIndex? (unit : Bytes) (width : Nat) (data : Bytes) : Option Nat :=
  alignedIndexFrom 0 unit width data

/-- Whether the bytes just before index `stop` are `tail`. -/
def endsAt (tail : Bytes) (data : Bytes) (stop : Nat) : Bool :=
  tail.length ≤ stop && slice data (stop - tail.length) stop == tail

def ofString (s : String) : Bytes := s.toUTF8.toList

end Bytes

end LogFollow
