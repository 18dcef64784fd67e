import LogFollow.Pattern.Expr

/-!
# Drafts of programs

A program is an array of numbered states. It is drafted state by state: a new state may lead nowhere
yet, and is linked later. A draft keeps count of the bytes that its states take, and drafting gives
nothing once there are more of them than a program may have.
-/

namespace LogFollow.Pattern

/-- A way on for one range of bytes. -/
structure Step where
  low : UInt8
  high : UInt8
  next : Nat
deriving DecidableEq, Repr

inductive State
  | pass (next : Nat)
  /-- Consumes a byte and goes on as one of the steps says; their ranges are in order. -/
  | consume (steps : List Step)
  /-- Consumes a byte of the range of one step. -/
  | consumeOne (step : Step)
  | look (look : Look) (next : Nat)
  | save (slot next : Nat)
  /-- Goes on in several ways: the earliest is preferred, or the latest if `latestFirst` is set. -/
  | fork (latestFirst : Bool) (ways : Array Nat)
  | accept
deriving DecidableEq, Repr

/-- The number of bytes that the states of a program may take. -/
def sizeLimit : Nat := 10 * 1024 * 1024

/-- The bytes that a state takes, apart from what it holds lists of. -/
def State.baseSize : Nat := 32

def Step.size : Nat := 8

def State.numberSize : Nat := 4

/-- The bytes that a state takes. -/
def State.size : State → Nat
  | .consume steps => baseSize + Step.size * steps.length
  | .fork _ ways => baseSize + numberSize * ways.size
  | _ => baseSize

/-- States, and the bytes that they take. -/
structure Draft where
  states : Array State := #[]
  size : Nat := 0
deriving Repr

/-- Work on a draft, which fails when the draft grows past the limit. -/
abbrev Drafting := StateT Draft Option

/-- A part of a draft: the state it is entered at, and the state it is left from. -/
structure Piece where
  entry : Nat
  exit : Nat
deriving DecidableEq, Repr

namespace Drafting

/-- Adds a state and gives its number. -/
def add (state : State) : Drafting Nat := fun draft =>
  let size := draft.size + state.size
  if size > sizeLimit then none else some (draft.states.size, ⟨draft.states.push state, size⟩)

/-- The state linked to another. A fork gets a further way. -/
def linked (target : Nat) : State → State
  | .pass _ => .pass target
  | .consumeOne step => .consumeOne { step with next := target }
  | .look l _ => .look l target
  | .save slot _ => .save slot target
  | .fork latestFirst ways => .fork latestFirst (ways.push target)
  | state => state

def isFork : State → Bool
  | .fork .. => true
  | _ => false

def link (source target : Nat) : Drafting Unit := fun draft =>
  let grown := if (draft.states[source]?).any isFork then State.numberSize else 0
  let size := draft.size + grown
  if size > sizeLimit then none else some ((), ⟨draft.states.modify source (linked target), size⟩)

/-- Adds a state that is a piece of its own. -/
def single (state : State) : Drafting Piece := do
  let n ← add state
  pure ⟨n, n⟩

def pass : Drafting Piece := single (.pass 0)

def range (low high : UInt8) : Drafting Piece := single (.consumeOne ⟨low, high, 0⟩)

def fork (latestFirst : Bool) : Drafting Nat := add (.fork latestFirst #[])

def join (first second : Piece) : Drafting Piece := do
  link first.exit second.entry
  pure ⟨first.entry, second.exit⟩

def chain (piece : Piece) : List (Drafting Piece) → Drafting Piece
  | [] => pure piece
  | make :: rest => do
    let next ← make
    chain (← join piece next) rest

/-- Drafts pieces one behind the other. -/
def sequence : List (Drafting Piece) → Drafting Piece
  | [] => pass
  | make :: rest => do chain (← make) rest

/-- Drafts a piece `n` more times behind a piece. -/
def chainCopies (make : Drafting Piece) : (n : Nat) → Piece → Drafting Piece
  | 0, piece => pure piece
  | n + 1, piece => do
    let next ← make
    chainCopies make n (← join piece next)

def copies (make : Drafting Piece) : (n : Nat) → Drafting Piece
  | 0 => pass
  | n + 1 => do chainCopies make n (← make)

/-- Drafts the bytes of a literal, the last one first if `backward` is set. -/
def literal (backward : Bool) (bytes : Bytes) : Drafting Piece :=
  sequence ((if backward then bytes.reverse else bytes).map fun b => range b b)

def byteClass (set : CodeSet) : Drafting Piece := do
  let exit ← add (.pass 0)
  let steps := set.ranges.map fun r => ⟨UInt8.ofNat r.1, UInt8.ofNat r.2, exit⟩
  let entry ← add (.consume steps)
  pure ⟨entry, exit⟩

end Drafting

end LogFollow.Pattern
