import LogFollow.Pattern.ByteRanges
import LogFollow.Pattern.Draft

/-!
# Drafts of scalar classes

A class of scalars is drafted from the sequences of byte ranges of its UTF-8 forms. Sequences that end
alike share states, as far as a table of bounded size remembers them: the table has one place for each
hash, and a newer entry takes the place of an older one.
-/

namespace LogFollow.Pattern.ScalarClass

def mix (hash : UInt64) (n : Nat) : UInt64 := (hash ^^^ UInt64.ofNat n) * 1099511628211

def hashStart : UInt64 := 14695981039346656037

/-- Remembered states, each with the steps that it takes. -/
structure Memory where
  slots : Array (Option (List Step × Nat))

namespace Memory

def ofCapacity (capacity : Nat) : Memory := ⟨Array.replicate capacity none⟩

def place (m : Memory) (hash : UInt64) : Nat := hash.toNat % m.slots.size

def find? (m : Memory) (place : Nat) (steps : List Step) : Option Nat :=
  match m.slots[place]? with
  | some (some (known, state)) => if known = steps then some state else none
  | _ => none

def insert (m : Memory) (place : Nat) (steps : List Step) (state : Nat) : Memory :=
  ⟨m.slots.set! place (some (steps, state))⟩

end Memory

/-! ## Forward -/

/-- The number of states remembered while a class is drafted. -/
def forwardCapacity : Nat := 10000

/-- A state in the making: its finished steps, the last one first, and the range of the step whose
target is still open. -/
structure Level where
  done : List Step
  last : Option (UInt8 × UInt8)

def Level.steps (l : Level) (next : Nat) : List Step :=
  match l.last with
  | some (low, high) => ⟨low, high, next⟩ :: l.done
  | none => l.done

/-- A class in the making: the levels of the newest sequence, the deepest first, and the states
remembered. -/
structure Making where
  levels : List Level
  memory : Memory

/-- The state that takes steps, which are in order. -/
def stateFor (memory : Memory) (steps : List Step) : Drafting (Nat × Memory) := do
  let hash := steps.foldl (fun h s => mix (mix (mix h s.low.toNat) s.high.toNat) s.next) hashStart
  let place := memory.place hash
  match memory.find? place steps with
  | some state => pure (state, memory)
  | none =>
    let state ← Drafting.add (.consume steps)
    pure (state, memory.insert place steps state)

/-- Finishes the deepest levels, so that `keep` levels and one more remain, and closes the open step of
the deepest level that remains. -/
def finish (keep : Nat) (next : Nat) (memory : Memory) : List Level → Drafting Making
  | [] => pure ⟨[], memory⟩
  | level :: rest =>
    if rest.length ≤ keep then pure ⟨{ done := level.steps next, last := none } :: rest, memory⟩
    else do
      let (state, memory) ← stateFor memory (level.steps next).reverse
      finish keep state memory rest

/-- The number of leading ranges that the open steps of the levels, the outermost first, have too. -/
def sharedCount : List (UInt8 × UInt8) → List Level → Nat
  | r :: rs, l :: ls => if l.last = some r then sharedCount rs ls + 1 else 0
  | _, _ => 0

def addSequence (target : Nat) (m : Making) (ranges : List (UInt8 × UInt8)) : Drafting Making := do
  let shared := sharedCount ranges m.levels.reverse
  let m ← finish shared target m.memory m.levels
  match ranges.drop shared, m.levels with
  | first :: more, level :: outer =>
    let deeper := more.map fun r => (⟨[], some r⟩ : Level)
    pure { m with levels := deeper.reverse ++ { level with last := some first } :: outer }
  | _, _ => pure m

def forward (set : CodeSet) : Drafting Piece := do
  let target ← Drafting.add (.pass 0)
  let m ← (ByteRanges.ofSet set).foldlM (addSequence target)
    ⟨[⟨[], none⟩], .ofCapacity forwardCapacity⟩
  let m ← finish 0 target m.memory m.levels
  match m.levels with
  | [] => pure ⟨target, target⟩
  | root :: _ =>
    let (entry, _) ← stateFor m.memory root.done.reverse
    pure ⟨entry, target⟩

/-! ## Backward -/

def backwardCapacity : Nat := 1000

/-- Drafts the ranges of a sequence, each before the one that was drafted last. -/
def prepend (next : Nat) (memory : Memory) : List (UInt8 × UInt8) → Drafting (Nat × Memory)
  | [] => pure (next, memory)
  | (low, high) :: rest => do
    let step : Step := ⟨low, high, next⟩
    let hash := mix (mix (mix hashStart next) low.toNat) high.toNat
    let place := memory.place hash
    match memory.find? place [step] with
    | some state => prepend state memory rest
    | none =>
      let state ← Drafting.add (.consumeOne step)
      prepend state (memory.insert place [step] state) rest

/-- Drafts a class that is read backward: a fork to the last bytes of all sequences. -/
def backward (set : CodeSet) : Drafting Piece := do
  let entry ← Drafting.fork false
  let exit ← Drafting.add (.pass 0)
  let _ ← (ByteRanges.ofSet set).foldlM
    (fun memory ranges => do
      let (first, memory) ← prepend exit memory ranges
      Drafting.link entry first
      pure memory)
    (Memory.ofCapacity backwardCapacity)
  pure ⟨entry, exit⟩

/-- Drafts a state, or several, that consume one scalar of a set. -/
def draft (isBackward : Bool) (set : CodeSet) : Drafting Piece :=
  if set.isBelow 0x7F then Drafting.byteClass set
  else if isBackward then backward set
  else forward set

end LogFollow.Pattern.ScalarClass
