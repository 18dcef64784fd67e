import LogFollow.Checkpoint.Codec

/-!
# The store of checkpoints

A store keeps the checkpoints of several inputs apart: each input has a scope, and a scope has a key,
under which the stored form of its checkpoints is found. A durable store outlives its being closed.
-/

namespace LogFollow

structure CheckpointStore where
  /-- Whether the records outlive the store's being closed. -/
  durable : Bool
  /-- The stored forms by key; the first record of a key counts. -/
  records : List (String × Bytes) := []
deriving DecidableEq

namespace CheckpointStore

def key (scope : String) : String := s!"offsets/{scope}/known_files"

/-- Loads the checkpoints of a scope. A scope that was never persisted has none. -/
def load (s : CheckpointStore) (scope : String) : Except DecodeFault (List Checkpoint) :=
  match s.records.lookup (key scope) with
  | some bytes => Checkpoint.decode bytes
  | none => .ok []

def persist (s : CheckpointStore) (scope : String) (checkpoints : List Checkpoint) :
    CheckpointStore :=
  let others := s.records.filter (·.1 != key scope)
  { s with records := (key scope, Checkpoint.encode checkpoints) :: others }

def reopen (s : CheckpointStore) : CheckpointStore :=
  if s.durable then s else { s with records := [] }

end CheckpointStore

end LogFollow
