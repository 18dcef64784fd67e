import LogFollow.Reader.Basic

/-!
# The registry of readers

The registry knows which reader belongs to which file. The readers of the last poll are candidates: a
file that is found is matched with the candidate that knows it best, and each candidate goes on with
one file at most. Candidates that no file was matched with are given up when the poll ends.
-/

namespace LogFollow

structure Registry where
  /-- The candidates; one that was taken leaves an empty slot. -/
  candidates : List (Option Reader) := []
  /-- The readers that were handed back in the poll under way. -/
  current : List Reader := []
  startAtBeginning : Bool
  generation : Nat := 0
deriving DecidableEq

namespace Registry

def readers (g : Registry) : List Reader := g.candidates.filterMap id

def size (g : Registry) : Nat := g.readers.length

def isEmpty (g : Registry) : Bool := g.size == 0

def checkpoints (g : Registry) : List Checkpoint := g.readers.map Reader.checkpoint

/-- Makes the readers of checkpoints the candidates. -/
def load (g : Registry) (settings : ReadSettings) (fs : FileSystem)
    (checkpoints : List Checkpoint) : Registry :=
  { g with candidates := checkpoints.map fun c => some (.ofCheckpoint settings fs c) }

def beginPoll (g : Registry) : Registry := { g with generation := g.generation + 1 }

/-- How well a candidate knows a file: by the length of the common beginning first, by its path next,
and then by how lately it was found. -/
structure Rank where
  common : Nat
  bound : Bool
  generation : Nat
deriving DecidableEq, Repr

/-- Whether one rank is not above another. -/
def Rank.atMost (a b : Rank) : Bool :=
  if a.common ≠ b.common then a.common < b.common
  else if a.bound ≠ b.bound then b.bound
  else a.generation ≤ b.generation

def rank (path : String) (fingerprint : Fingerprint) (r : Reader) : Rank :=
  { common := min r.fingerprint.size fingerprint.size
    bound := FilePath.same r.path path
    generation := r.generation }

/-- The better one of two candidates with their slots; the later one if they are equally good. -/
def better (path : String) (fingerprint : Fingerprint) (best : Option (Nat × Reader))
    (next : Nat × Reader) : Option (Nat × Reader) :=
  match best with
  | none => some next
  | some b =>
    if (rank path fingerprint b.2).atMost (rank path fingerprint next.2) then some next else some b

def matching (fingerprint : Fingerprint) (slots : List (Option Reader)) : List (Nat × Reader) :=
  slots.zipIdx.filterMap fun (slot, i) =>
    match slot with
    | some r => if r.fingerprint.matchesWith fingerprint then some (i, r) else none
    | none => none

def best? (g : Registry) (path : String) (fingerprint : Fingerprint) : Option (Nat × Reader) :=
  (matching fingerprint g.candidates).foldl (better path fingerprint) none

def take (g : Registry) (slot : Nat) : Registry :=
  { g with candidates := g.candidates.set slot none }

/-- The offset of a file that is seen for the first time. Only the first poll may pass over what is in
a file. -/
def firstOffset (g : Registry) (firstPoll : Bool) (size : Nat) : Nat :=
  if g.startAtBeginning || !firstPoll then 0 else size

def assign (g : Registry) (settings : ReadSettings) (fs : FileSystem) (path : String)
    (fingerprint : Fingerprint) (size : Nat) (firstPoll : Bool) : Reader × Registry :=
  match g.best? path fingerprint with
  | some (slot, previous) =>
    let r := Reader.inherit settings fs path fingerprint previous
    ({ r with generation := g.generation }, g.take slot)
  | none =>
    let r := Reader.new settings fs path fingerprint (g.firstOffset firstPoll size)
    ({ r with generation := g.generation }, g)

/-- The reader of what was opened at a path. A file without bytes cannot be recognised, and has none. -/
def resolve (g : Registry) (settings : ReadSettings) (fs : FileSystem) (path : String)
    (opened : FileSystem.Opened) (firstPoll : Bool) : Except IoError (Option Reader) × Registry :=
  match opened.fingerprint settings.fingerprintSize with
  | .error cause => (.error cause, g)
  | .ok fingerprint =>
    if fingerprint.isEmpty then (.ok none, g)
    else
      let (r, g) := g.assign settings fs path fingerprint opened.size firstPoll
      (.ok (some r), g)

def bound? (g : Registry) (path : String) : Option (Nat × Reader) :=
  g.candidates.zipIdx.findSome? fun (slot, i) =>
    match slot with
    | some r => if FilePath.same r.path path then some (i, r) else none
    | none => none

/-- Carries the candidate that is bound to a path over into the next poll as it is. Tells whether there
was one. -/
def keep (g : Registry) (path : String) : Bool × Registry :=
  match g.bound? path with
  | some (slot, r) =>
    let g := g.take slot
    (true, { g with current := g.current ++ [r] })
  | none => (false, g)

def track (g : Registry) (r : Reader) : Registry := { g with current := g.current ++ [r] }

/-- Ends a poll: the readers that were handed back become the candidates, and those that nothing was
matched with are given up. -/
def endPoll (g : Registry) : List Reader × Registry :=
  (g.readers, { g with candidates := g.current.map some, current := [] })

end Registry

end LogFollow
