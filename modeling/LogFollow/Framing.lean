import LogFollow.Pattern.Regex
import LogFollow.Text.Charset

/-!
# Framing

Framing cuts a byte stream into tokens. A framing rule looks at the bytes at hand and either finds
the first token in them, or needs more. A token ends at a newline in the encoding of the file, or
just before a place where the pattern of an entry's first line matches, or just after a place where
the pattern of an entry's end matches.
-/

namespace LogFollow

/-- A way to find the entry boundaries that a pattern describes: the first match in a byte string
that starts at or after an index. -/
structure Matcher where
  pattern : String
  find? : Bytes → Nat → Option Span

namespace Matcher

def ofRegex (r : Pattern.Regex) : Matcher := { pattern := r.pattern, find? := r.find? }

/-- What can be asked of a matcher: a match lies within the bytes and does not start too early. -/
def Lawful (m : Matcher) : Prop :=
  ∀ data start span, m.find? data start = some span →
    start ≤ span.start ∧ span.start ≤ span.stop ∧ span.stop ≤ data.length

end Matcher

inductive Framing
  /-- One token per line. The line ends at `newline`, at a multiple of `width`; a `carriageReturn`
  before it is dropped. -/
  | newline (newline carriageReturn : Bytes) (width : Nat)
  | entryStart (first : Matcher)
  /-- Entries end where the pattern matches; the match is part of the entry. -/
  | entryEnd (last : Matcher)

inductive Cut
  | needsMore
  /-- The first `advance` bytes are used up, and the bytes of `token` are the token. -/
  | token (advance : Nat) (token : Span)
deriving DecidableEq, Repr

namespace Framing

def patternLookahead : Nat := 4096

/-- The bytes past the greatest token that must be at hand to find its end. -/
def lookahead : Framing → Nat
  | newline _ _ width => 2 * width
  | entryStart _ | entryEnd _ => patternLookahead

def cutLine (newline carriageReturn : Bytes) (width : Nat) (data : Bytes) : Cut :=
  match Bytes.alignedIndex? newline width data with
  | none => .needsMore
  | some stop =>
    let trimmed :=
      if Bytes.endsAt carriageReturn data stop then stop - carriageReturn.length else stop
    .token (stop + newline.length) ⟨0, trimmed⟩

/-- The bytes up to the start of the second entry. What stands before the first entry is a token of
its own, so that nothing is lost. A match that reaches the end of the bytes may still grow. -/
def cutBeforeEntry (first : Matcher) (data : Bytes) : Cut :=
  match first.find? data 0 with
  | none => .needsMore
  | some m =>
    if m.start ≠ 0 then .token m.start ⟨0, m.start⟩
    else if !data.reaches (m.stop + 1) then .needsMore
    else
      match first.find? data (if m.start < m.stop then m.stop else m.stop + 1) with
      | some next => .token next.start ⟨0, next.start⟩
      | none => .needsMore

/-- The first match that ends past the start of the bytes. -/
def firstEnd? (last : Matcher) (data : Bytes) : Option Span :=
  match last.find? data 0 with
  | none => none
  | some m => if 0 < m.stop then some m else last.find? data 1

/-- The bytes up to the end of the first entry. A match that reaches the end of the bytes may still
grow, unless no more bytes come. -/
def cutAfterEntry (last : Matcher) (data : Bytes) (complete : Bool) : Cut :=
  match firstEnd? last data with
  | none => .needsMore
  | some m =>
    if !data.reaches (m.stop + 1) && !complete then .needsMore else .token m.stop ⟨0, m.stop⟩

/-- Finds the first token in the bytes at hand; `complete` tells that no more bytes come. -/
def cut (rule : Framing) (data : Bytes) (complete : Bool) : Cut :=
  if data.isEmpty then .needsMore
  else
    match rule with
    | newline nl cr width => cutLine nl cr width data
    | entryStart first => cutBeforeEntry first data
    | entryEnd last => cutAfterEntry last data complete

end Framing

end LogFollow
