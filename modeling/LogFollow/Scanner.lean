import LogFollow.Framing
import LogFollow.Source

/-!
# The scanner

A scanner reads a source into a buffer and cuts the buffer into tokens. The buffer may grow up to the
greatest token and the look-ahead of the framing rule, and never further. An entry that does not fit
is reported once as oversized; its bytes are thrown away up to the next token boundary, and the
entries after it are found as if it had not been there. The scanner counts all bytes it has consumed,
so its position is always the place in the file that follows the last token.

Sizes are machine words. Where the greatest token and the look-ahead make up more than the greatest of
them, their sum wraps, and the buffer may grow to what is left of it only, which may be nothing.
-/

namespace LogFollow

inductive Scanned
  | token (bytes : Bytes)
  /-- An entry of more than the greatest size was dropped. -/
  | oversized (size : Nat)
deriving DecidableEq, Repr

inductive ScanResult
  | found (item : Scanned)
  /-- The source has run out, and the bytes left form no token. -/
  | exhausted
  | failed (cause : IoError)
deriving DecidableEq, Repr

/-- A scanner. The buffer has room for `room` bytes; the bytes before index `start` are used up, and
`window` holds those that follow. -/
structure Scanner where
  rule : Framing
  maxSize : Nat
  source : Source
  room : Nat
  start : Nat := 0
  window : Bytes := []
  /-- The place in the file of the first byte of the window. -/
  position : Nat
  atEnd : Bool := false
  /-- Whether the bytes at hand belong to an entry that was reported as oversized. -/
  skipping : Bool := false

namespace Scanner

def initialRoom : Nat := 16 * 1024

/-- How many sizes there are. -/
def sizes : Nat := 18446744073709551616

/-- The room that a buffer may grow to. The sum is not checked, and wraps. -/
def capacityOf (rule : Framing) (maxSize : Nat) : Nat := (maxSize + rule.lookahead) % sizes

def new (rule : Framing) (maxSize : Nat) (source : Source) (position : Nat) : Scanner :=
  { rule, maxSize, source, position, room := min initialRoom (capacityOf rule maxSize) }

def capacity (s : Scanner) : Nat := capacityOf s.rule s.maxSize

def consume (s : Scanner) (n : Nat) : Scanner :=
  let window := s.window.drop n
  { s with
    window
    start := if window.isEmpty then 0 else s.start + n
    position := s.position + n }

def compact (s : Scanner) : Scanner := { s with start := 0 }

/-- Takes the tokens at hand: the first one, or, behind an oversized entry, the one after the rest of
that entry. Without a token the scanner needs more bytes. -/
def take? (s : Scanner) : Option Scanned × Scanner :=
  match s.rule.cut s.window s.atEnd with
  | .needsMore => (none, s)
  | .token advance token =>
    let next := s.consume advance
    if s.skipping then first { next with skipping := false }
    else (some (item s token), next)
where
  /-- The token, unless it is too large. -/
  item (s : Scanner) (token : Span) : Scanned :=
    if token.size > s.maxSize then .oversized token.size
    else .token (Bytes.slice s.window token.start token.stop)
  /-- The first token of the window of a scanner that skips nothing. -/
  first (s : Scanner) : Option Scanned × Scanner :=
    match s.rule.cut s.window s.atEnd with
    | .needsMore => (none, s)
    | .token advance token => (some (item s token), s.consume advance)

/-- Makes room for more bytes. A full buffer grows; one that may not grow is thrown away, and the
entry in it is reported unless it was before. -/
def makeRoom (s : Scanner) : Option Scanned × Scanner :=
  let s := s.compact
  if s.window.length = s.room then
    if s.room < s.capacity then (none, { s with room := min (2 * s.room) s.capacity })
    else
      let size := s.window.length
      let next := s.consume size
      if s.skipping then (none, next)
      else (some (.oversized size), { next with skipping := true })
  else (none, s)

/-- Reads once into the room behind the window. -/
def fill (s : Scanner) : Option IoError × Scanner :=
  let (result, source) := s.source.read (s.room - s.window.length)
  match result with
  | .data [] => (none, { s with source, atEnd := true })
  | .data bytes => (none, { s with source, window := s.window ++ bytes })
  | .interrupted => (none, { s with source })
  | .failed cause => (some cause, { s with source })

/-- Reads until there is a token, an oversized entry or a failure, or the source has run out. The
fuel bounds the number of turns. -/
def pull : (fuel : Nat) → Scanner → ScanResult × Scanner
  | 0, s => (.exhausted, s)
  | fuel + 1, s =>
    if s.atEnd then (.exhausted, s)
    else
      match s.makeRoom with
      | (some item, s) => (.found item, s)
      | (none, s) =>
        -- a buffer without room is full again when it has been thrown away
        if s.room = 0 then pull fuel s
        else
          match s.fill with
          | (some cause, s) => (.failed cause, s)
          | (none, s) =>
            match s.take? with
            | (some item, s) => (.found item, s)
            | (none, s) => pull fuel s

/-- The turns that stand for turning without end. -/
def endless : Nat := 4611686018427387904

/-- A bound on the number of turns before the source has run out. It never does where there is no room
to read into. -/
def work (s : Scanner) : Nat := if s.room = 0 then endless else s.source.work + 2

def next (s : Scanner) : ScanResult × Scanner :=
  match s.take? with
  | (some item, s) => (.found item, s)
  | (none, s) => pull s.work s

/-- Takes the bytes that formed no token, once the source has run out. What is left of an oversized
entry is dropped. -/
def takeRemaining (s : Scanner) : Option Bytes × Scanner :=
  if s.window.isEmpty then (none, s)
  else
    let rest := s.window
    let next := s.consume rest.length
    if s.skipping then (none, { next with skipping := false }) else (some rest, next)

end Scanner

end LogFollow
