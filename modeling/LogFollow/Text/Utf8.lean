import LogFollow.Text.Automaton

/-!
# UTF-8

Two views of UTF-8: the decoder that replaces each maximal malformed part by U+FFFD, and a look at
the first scalar of a byte string, with which well-formed text is told from malformed text and the
place and length of the first fault are found.
-/

namespace LogFollow.Text.Utf8

def within (lo hi b : UInt8) : Bool := lo ≤ b && b ≤ hi

/-- What has been read of a sequence: nothing, or a lead byte and perhaps more, with the range that
the next byte must lie in, the number of bytes still missing, and the value of the bits so far. -/
inductive Pending
  | none
  | some (lo hi : UInt8) (missing : Nat) (value : Nat)
deriving DecidableEq, Repr

/-- What a byte opens: a sequence of its own, a longer sequence, or nothing that is well formed.
The ranges of the second byte shut out overlong forms, surrogates and numbers past U+10FFFF. -/
def lead (b : UInt8) : Option Pending :=
  if b < 0x80 then some .none
  else if within 0xC2 0xDF b then some (.some 0x80 0xBF 1 (b.toNat - 0xC0))
  else if b = 0xE0 then some (.some 0xA0 0xBF 2 0)
  else if b = 0xED then some (.some 0x80 0x9F 2 0xD)
  else if within 0xE1 0xEF b then some (.some 0x80 0xBF 2 (b.toNat - 0xE0))
  else if b = 0xF0 then some (.some 0x90 0xBF 3 0)
  else if b = 0xF4 then some (.some 0x80 0x8F 3 4)
  else if within 0xF1 0xF3 b then some (.some 0x80 0xBF 3 (b.toNat - 0xF0))
  else none

def stepLead (b : UInt8) : List Char × Pending :=
  match lead b with
  | some .none => ([charOfCode b.toNat], .none)
  | some p => ([], p)
  | none => ([replacement], .none)

def automaton : Automaton Pending where
  start := .none
  step
    | .none, b => stepLead b
    | .some lo hi missing value, b =>
      if within lo hi b then
        let value := value * 64 + (b.toNat - 0x80)
        if missing ≤ 1 then ([charOfCode value], .none)
        else ([], .some 0x80 0xBF (missing - 1) value)
      else
        let (out, s) := stepLead b
        (replacement :: out, s)
  flush
    | .none => []
    | .some .. => [replacement]

/-- The text of `bytes`, with U+FFFD for each maximal malformed part. -/
def decode (bytes : Bytes) : String := String.ofList (automaton.run bytes)

inductive Front
  | empty
  | scalar (value : Nat) (size : Nat)
  /-- `size` bytes that begin no scalar; the byte after them broke the sequence. -/
  | malformed (size : Nat)
  /-- A sequence of `size` bytes that the end of the input cuts short. -/
  | cut (size : Nat)
deriving DecidableEq, Repr

/-- Reads the rest of an open sequence of which `size` bytes have been read. -/
def frontFrom (lo hi : UInt8) (value size : Nat) : (missing : Nat) → Bytes → Front
  | 0, _ => .scalar value size
  | _ + 1, [] => .cut size
  | missing + 1, b :: rest =>
    if within lo hi b then
      frontFrom 0x80 0xBF (value * 64 + (b.toNat - 0x80)) (size + 1) missing rest
    else .malformed size

def front : Bytes → Front
  | [] => .empty
  | b :: rest =>
    match lead b with
    | some .none => .scalar b.toNat 1
    | some (.some lo hi missing value) => frontFrom lo hi value 1 missing rest
    | none => .malformed 1

inductive Fault
  /-- The `size` bytes at `at` begin no scalar. -/
  | invalid (size place : Nat)
  | incomplete (place : Nat)
deriving DecidableEq, Repr

def Fault.message : Fault → String
  | .invalid size place => s!"invalid utf-8 sequence of {size} bytes from index {place}"
  | .incomplete place => s!"incomplete utf-8 byte sequence from index {place}"

/-- The characters of `bytes`, whose first byte has index `place`, or the first fault. The fuel is a
bound on the number of characters. -/
def readFrom (place : Nat) (done : List Char) : (fuel : Nat) → Bytes → Except Fault (List Char)
  | 0, _ => .ok done.reverse
  | fuel + 1, bytes =>
    match front bytes with
    | .empty => .ok done.reverse
    | .scalar value size =>
      readFrom (place + size) (charOfCode value :: done) fuel (bytes.drop size)
    | .malformed size => .error (.invalid size place)
    | .cut _ => .error (.incomplete place)

/-- The text of `bytes` when they are well formed, the first fault when they are not. -/
def read (bytes : Bytes) : Except Fault String :=
  (readFrom 0 [] (bytes.length + 1) bytes).map String.ofList

def isContinuation (b : UInt8) : Bool := within 0x80 0xBF b

/-- The scalar that stands just before a place; `before` holds the bytes before it, last one first.
The scalar is looked for at the nearest byte that is no continuation byte, at most four bytes back. -/
def back (before : Bytes) : Front :=
  let continuations := ((before.take 3).takeWhile isContinuation).length
  front (before.take (continuations + 1)).reverse

end LogFollow.Text.Utf8
