import LogFollow.Bytes
import LogFollow.Pattern.Program
import LogFollow.Pattern.Property
import LogFollow.Text.Utf8

/-!
# Searching

A search runs all ways through a program in step along the subject, in order of preference, and so
finds the leftmost match, and of the matches that start there the preferred one, in one pass. Ways
that stand at the same step of the program have the same future, so only the preferred one is kept.
-/

namespace LogFollow.Pattern

/-- A place in a subject: its index, the bytes before it (last one first) and the bytes after it. -/
structure Place where
  index : Nat
  before : Bytes
  after : Bytes

namespace Place

def isWordByte (b : UInt8) : Bool := Property.asciiWord.contains b.toNat

/-- Whether the character before the place is a word character; nothing if it is malformed. -/
def wordBefore? (ascii : Bool) (p : Place) : Option Bool :=
  if ascii then some (p.before.head?.any isWordByte)
  else
    match Text.Utf8.back p.before with
    | .empty => some false
    | .scalar value _ => some (Property.word.contains value)
    | _ => none

/-- Whether the character after the place is a word character; nothing if it is malformed. -/
def wordAfter? (ascii : Bool) (p : Place) : Option Bool :=
  if ascii then some (p.after.head?.any isWordByte)
  else
    match Text.Utf8.front p.after with
    | .empty => some false
    | .scalar value _ => some (Property.word.contains value)
    | _ => none

def wordBefore (ascii : Bool) (p : Place) : Bool := (p.wordBefore? ascii).getD false

def wordAfter (ascii : Bool) (p : Place) : Bool := (p.wordAfter? ascii).getD false

end Place

/-- Whether a place has a property. Beside a malformed character there is no word edge and no
absence of one. -/
def Look.holds (p : Place) : Look → Bool
  | .textStart => p.before.isEmpty
  | .textEnd => p.after.isEmpty
  | .lineStart => p.before.isEmpty || p.before.head? == some 0x0A
  | .lineEnd => p.after.isEmpty || p.after.head? == some 0x0A
  | .lineStartCrlf =>
    p.before.isEmpty || p.before.head? == some 0x0A
      || (p.before.head? == some 0x0D && p.after.head? != some 0x0A)
  | .lineEndCrlf =>
    p.after.isEmpty || p.after.head? == some 0x0D
      || (p.after.head? == some 0x0A && p.before.head? != some 0x0D)
  | .wordEdge ascii => p.wordBefore ascii != p.wordAfter ascii
  | .noWordEdge ascii =>
    match p.wordBefore? ascii, p.wordAfter? ascii with
    | some a, some b => a == b
    | _, _ => false
  | .wordStart ascii => !p.wordBefore ascii && p.wordAfter ascii
  | .wordEnd ascii => p.wordBefore ascii && !p.wordAfter ascii
  | .wordStartHalf ascii => (p.wordBefore? ascii) == some false
  | .wordEndHalf ascii => (p.wordAfter? ascii) == some false

/-- The remembered places, by slot number. Slot 0 holds the start of the match. -/
abbrev Slots := List (Nat × Nat)

def Slots.put (slots : Slots) (slot index : Nat) : Slots :=
  (slot, index) :: slots.filter (·.1 != slot)

def Slots.get? (slots : Slots) (slot : Nat) : Option Nat :=
  (slots.find? (·.1 == slot)).map (·.2)

structure Thread where
  state : Nat
  slots : Slots
deriving DecidableEq, Repr

/-- What gathering the ways at a place gives: for each state the last place at which it was reached,
counted from 1, the ways that consume something next (last one first), and the slots of the match, once
a way has come to its end. -/
structure Gathered where
  reached : Array Nat
  ready : List Thread := []
  found : Option Slots := none

/-- What a search goes by: the program, the number of the first slot that is not remembered, and whether
an empty match may not split a scalar. -/
structure Search where
  program : Program
  slotBound : Option Nat
  scalarsOnly : Bool

namespace Search

def keeps (s : Search) (slot : Nat) : Bool := s.slotBound.all (slot < ·)

/-- Follows ways through the states that consume nothing; `pending` are the ways to follow, the
preferred one first. A state is reached once at a place, and a match ends the ways behind it. The fuel
bounds the number of ways. -/
def follow (s : Search) (place : Place) : (fuel : Nat) → (pending : List Thread) → Gathered → Gathered
  | 0, _, g => g
  | _ + 1, [], g => g
  | fuel + 1, t :: pending, g =>
    if g.reached[t.state]? = some (place.index + 1) then follow s place fuel pending g
    else
      let g := { g with reached := g.reached.set! t.state (place.index + 1) }
      match s.program.states[t.state]? with
      | none => follow s place fuel pending g
      | some .accept => { g with found := some t.slots }
      | some (.pass next) => follow s place fuel ({ t with state := next } :: pending) g
      | some (.fork latestFirst ways) =>
        let ways := if latestFirst then ways.toList.reverse else ways.toList
        follow s place fuel (ways.map ({ t with state := · }) ++ pending) g
      | some (.look l next) =>
        if l.holds place then follow s place fuel ({ t with state := next } :: pending) g
        else follow s place fuel pending g
      | some (.save slot next) =>
        let slots := if s.keeps slot then t.slots.put slot place.index else t.slots
        follow s place fuel (⟨next, slots⟩ :: pending) g
      | some (.consume _) | some (.consumeOne _) =>
        follow s place fuel pending { g with ready := t :: g.ready }

/-- The number of ways that can come up at a place: each state is reached once, and takes more bytes
than it has ways on. -/
def fuel (s : Search) (threads : List Thread) : Nat := s.program.size + threads.length + 1

def after? (b : UInt8) : State → Option Nat
  | .consumeOne step => if step.low ≤ b && b ≤ step.high then some step.next else none
  | .consume steps => (steps.find? fun step => step.low ≤ b && b ≤ step.high).map (·.next)
  | _ => none

def consume (s : Search) (b : UInt8) (t : Thread) : Option Thread :=
  ((s.program.states[t.state]?).bind (after? b)).map fun next => { t with state := next }

def isBoundary (p : Place) : Bool :=
  match p.after with
  | [] => true
  | b :: _ => !Text.Utf8.isContinuation b

/-- Gathers the ways at a place. A new way is opened there as long as no match has been found. -/
def gather (s : Search) (place : Place) (threads : List Thread) (reached : Array Nat)
    (best : Option (Slots × Nat)) : Gathered :=
  let opened :=
    if best.isSome || (s.scalarsOnly && !isBoundary place) then threads
    else threads ++ [⟨s.program.start, []⟩]
  s.follow place (s.fuel opened) opened { reached }

/-- Searches on from a place. `threads` are the ways still open, in order of preference, and `best`
is the preferred match found so far with its end. -/
def run (s : Search) (before : Bytes) (index : Nat) (threads : List Thread) (reached : Array Nat)
    (best : Option (Slots × Nat)) : Bytes → Option (Slots × Nat)
  | [] =>
    let g := s.gather ⟨index, before, []⟩ threads reached best
    (g.found.map (·, index)).or best
  | b :: rest =>
    let g := s.gather ⟨index, before, b :: rest⟩ threads reached best
    let best := (g.found.map (·, index)).or best
    let threads := g.ready.reverse.filterMap (s.consume b)
    if threads.isEmpty && best.isSome then best
    else s.run (b :: before) (index + 1) threads g.reached best rest

/-- The slots and the end of the first match that starts at or after index `start`. -/
def first? (s : Search) (subject : Bytes) (start : Nat) : Option (Slots × Nat) :=
  if !Bytes.reaches subject start then none
  else
    s.run (subject.take start).reverse start [] (Array.replicate s.program.states.size 0) none
      (subject.drop start)

end Search

end LogFollow.Pattern
