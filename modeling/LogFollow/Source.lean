import LogFollow.Fingerprint
import LogFollow.IoError

/-!
# Byte sources

A source hands out bytes, read by read. What its reads will meet is written down as a script: pieces
of data, interruptions and failures, in order. A read gets bytes of one piece only, and at most as
many as it asks for; when the script has run out, a read gets nothing.

On the way through, a source completes the fingerprint of the file it reads: a fingerprint that is
still shorter than its limit is extended by a read that begins just where the fingerprint ends.
-/

namespace LogFollow

inductive Delivery
  | data (bytes : Bytes)
  /-- The read is interrupted and may be tried again. -/
  | interrupted
  | failed (cause : IoError)
deriving DecidableEq, Repr

inductive ReadResult
  | data (bytes : Bytes)
  | interrupted
  | failed (cause : IoError)
deriving DecidableEq, Repr

/-- A byte source: what its reads will meet, the index in the file of the byte that comes next, and
the fingerprint it completes, with the limit on its size. -/
structure Source where
  script : List Delivery
  position : Nat := 0
  fingerprint : Fingerprint := ⟨[]⟩
  limit : Nat := 0
deriving DecidableEq, Repr

namespace Source

def ofContent (content : Bytes) (position : Nat) (fingerprint : Fingerprint) (limit : Nat) : Source :=
  { script := [.data (content.drop position)], position, fingerprint, limit }

/-- The next delivery of a script to a read of at most `n` bytes, and the script after it. Empty
pieces are passed over. -/
def deliver (n : Nat) : List Delivery → ReadResult × List Delivery
  | [] => (.data [], [])
  | .data [] :: rest => deliver n rest
  | .data bytes :: rest =>
    let left := bytes.drop n
    (.data (bytes.take n), if left.isEmpty then rest else .data left :: rest)
  | .interrupted :: rest => (.interrupted, rest)
  | .failed cause :: rest => (.failed cause, rest)

/-- The fingerprint after `bytes` were read at index `position`. -/
def extend (fingerprint : Fingerprint) (limit position : Nat) (bytes : Bytes) : Fingerprint :=
  if fingerprint.size < limit ∧ position = fingerprint.size then fingerprint.append limit bytes
  else fingerprint

def read (s : Source) (n : Nat) : ReadResult × Source :=
  let (result, script) := deliver n s.script
  match result with
  | .data bytes =>
    (.data bytes, { s with
      script
      position := s.position + bytes.length
      fingerprint := extend s.fingerprint s.limit s.position bytes })
  | other => (other, { s with script })

/-- The reads that one delivery can still serve, at one byte to a read. -/
def workOf : Delivery → Nat
  | .data bytes => bytes.length
  | .interrupted => 1
  | .failed _ => 1

/-- A bound on the number of reads that can still meet something. -/
def work (s : Source) : Nat := s.script.foldr (fun delivery n => workOf delivery + n) 0

end Source

end LogFollow
