import LogFollow.Checkpoint.Store
import LogFollow.Reader.Read
import LogFollow.Registry

/-!
# Following files

A follower polls the file system. In each poll it finds the files that are wanted, gives each of them
its reader, reads them one after another, deletes those that are read to their end if that is asked for,
gives up the readers whose files are gone, and stores how far it has come.
-/

namespace LogFollow

structure PollStats where
  /-- The number of files that had a reader. -/
  files : Nat
  emitted : Nat
  /-- The number of readers that were given up. -/
  retired : Nat
deriving DecidableEq, Repr

structure Follower where
  settings : Settings
  registry : Registry
  store : CheckpointStore
  firstPoll : Bool := true

/-- A follower with what it acts upon. -/
structure World where
  follower : Follower
  fs : FileSystem
  sink : Sink

namespace Follower

def new (settings : Settings) (store : CheckpointStore) : Follower :=
  { settings, store, registry := { startAtBeginning := settings.startAt = .beginning } }

def load (f : Follower) (fs : FileSystem) : Except Error Follower :=
  match f.store.load f.settings.id with
  | .ok checkpoints =>
    .ok { f with registry := f.registry.load f.settings.toReadSettings fs checkpoints }
  | .error fault => .error (.serialization fault)

def persist (f : Follower) : Follower :=
  { f with store := f.store.persist f.settings.id f.registry.checkpoints }

/-- Finds the reader of the file at a path. A file that cannot be read now keeps the reader it has. -/
def resolvePath (f : Follower) (fs : FileSystem) (path : String) : Option Reader × Registry :=
  match fs.openPath path with
  | .error _ => (none, (f.registry.keep path).2)
  | .ok opened =>
    match f.registry.resolve f.settings.toReadSettings fs path opened f.firstPoll with
    | (.ok r, registry) => (r, registry)
    | (.error _, registry) => (none, (registry.keep path).2)

def resolveAll (f : Follower) (fs : FileSystem) : List String → List Reader × Follower
  | [] => ([], f)
  | path :: rest =>
    let (r, registry) := f.resolvePath fs path
    let (rs, f) := { f with registry }.resolveAll fs rest
    (r.toList ++ rs, f)

end Follower

namespace World

def emittedOf (outcome : Except Error ReadOutcome) : Nat :=
  match outcome with
  | .ok o => o.emitted
  | .error _ => 0

def deletes (settings : ReadSettings) (outcome : Except Error ReadOutcome) : Bool :=
  match outcome with
  | .ok o => settings.deleteAfterRead && o.reachedEnd
  | .error _ => false

def readAll (w : World) : List Reader → List Reading × World
  | [] => ([], w)
  | r :: rest =>
    let reading := r.readToEnd w.follower.settings.toReadSettings w.fs w.sink
    let (more, w) := { w with sink := reading.sink }.readAll rest
    (reading :: more, w)

/-- Hands the reader of a reading back, or deletes the file when it has been read to its end. -/
def settle (w : World) (reading : Reading) : World :=
  if deletes w.follower.settings.toReadSettings reading.outcome then
    match w.fs.remove reading.reader.path with
    | .ok fs => { w with fs }
    | .error _ => w
  else { w with follower.registry := w.follower.registry.track reading.reader }

def emittedBy (readings : List Reading) : Nat :=
  readings.foldl (fun n reading => n + emittedOf reading.outcome) 0

/-- Reads what is left of the files of readers that are given up. -/
def retireAll (w : World) : List Reader → Nat × World
  | [] => (0, w)
  | r :: rest =>
    let reading := r.retire w.follower.settings.toReadSettings w.fs w.sink
    let (m, w) := { w with sink := reading.sink }.retireAll rest
    (emittedOf reading.outcome + m, w)

def poll (w : World) : PollStats × World :=
  let f := { w.follower with registry := w.follower.registry.beginPoll }
  let (readers, f) := f.resolveAll w.fs (f.settings.finder.find w.fs)
  let (readings, w) := { w with follower := { f with firstPoll := false } }.readAll readers
  let w := readings.foldl settle w
  let (retired, registry) := w.follower.registry.endPoll
  let (flushed, w) := { w with follower.registry := registry }.retireAll retired
  ({ files := readers.length, emitted := emittedBy readings + flushed, retired := retired.length },
    { w with follower := w.follower.persist })

/-- Takes up the checkpoints in the store, makes one poll unless reading is to stop, and stores how far
it has come. -/
def pollOnce (w : World) : Except Error World := do
  let follower ← w.follower.load w.fs
  let w := { w with follower }
  let w := if w.sink.cancelled then w else w.poll.2
  pure { w with follower := w.follower.persist }

end World

end LogFollow
