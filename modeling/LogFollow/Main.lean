import LogFollow.Program
import Std.Time.DateTime.Timestamp

/-!
# The command line

The outer layer of the program: it takes a picture of the part of the file system that matters before
every poll, and carries out what a poll has done to it. It runs until it is stopped from outside;
every poll leaves the store on the disk.
-/

namespace LogFollow.CommandLine

/-- A picture of the file system, with the places that were looked at. -/
structure Picture where
  fs : FileSystem
  seen : List Place := []

def pathOf (place : Place) : String := "/" ++ "/".intercalate place

/-- The place of a path, as it is spelled. -/
def placeOf (path : String) : Place := (FilePath.pieces path).filter (· ≠ "")

/-- What stands at a place, without its content. -/
def nodeAt (place : Place) : IO (Option Node) := do
  let path := pathOf place
  let some parent ← (some <$> IO.FS.realPath (pathOf place.dropLast)).catchExceptions
    (fun _ => pure none) | return none
  let here := parent / (place.getLast?.getD "")
  match ← here.symlinkMetadata.toBaseIO with
  | .error _ => return none
  | .ok metadata =>
    match metadata.type with
    | .dir => return some .directory
    | .file => return some (.file [])
    | .symlink =>
      match ← (IO.FS.realPath path).toBaseIO with
      | .ok target => return some (.link target.toString)
      -- A link that leads nowhere is as good as one to itself.
      | .error _ => return some (.link (place.getLast?.getD ""))
    | .other => return none

/-- Looks at a place and, if it is a directory, at all below it. -/
partial def Picture.addTree (p : Picture) (place : Place) : IO Picture := do
  if p.seen.contains place then return p
  let p := { p with seen := place :: p.seen }
  match ← nodeAt place with
  | none => return p
  | some .directory =>
    let entries ← (do (← IO.FS.realPath (pathOf place)).readDir : IO _).toBaseIO
    let mut p := { p with fs := p.fs.put place .directory }
    for entry in entries.toOption.getD #[] do
      p ← p.addTree (place ++ [entry.fileName])
    return p
  | some (.link target) =>
    let p := { p with fs := p.fs.put place (.link target) }
    if FilePath.isAbsolute target then p.addTree (placeOf target) else return p
  | some node => return { p with fs := p.fs.put place node }

/-- Looks at the directories and links on the way to a place, and at all below it. -/
partial def Picture.addPath (p : Picture) (done : Place) : List String → IO Picture
  | [] => p.addTree done
  | name :: rest => do
    let place := done ++ [name]
    match ← nodeAt place with
    | none => return p
    | some node =>
      let p := { p with fs := p.fs.put place node }
      match node with
      | .directory => p.addPath place rest
      | .link target =>
        if FilePath.isAbsolute target then p.addPath [] (placeOf target ++ rest) else return p
      | .file _ => return p

/-- The part of a glob before its first special character, up to a slash. -/
def literalPart (glob : String) : List String :=
  (placeOf glob).takeWhile fun piece => !piece.toList.any fun c => ['*', '?', '['].contains c

/-- A picture of what some globs may match, from the directory that the program runs in. -/
def picture (home : Place) (globs : List String) : IO FileSystem := do
  let empty : Picture := { fs := { home, nodes := [(home, .directory)] } }
  let picture ← globs.foldlM (fun (p : Picture) glob =>
    p.addPath [] (FileSystem.origin home glob ++ literalPart glob)) empty
  return picture.fs

/-- Puts the content of a file into a picture; a file that cannot be read is left out. -/
def withContent (fs : FileSystem) (path : String) : IO FileSystem := do
  match ← (IO.FS.readBinFile path).toBaseIO with
  | .ok content => return (fs.update path fun _ => pure content.toList).toOption.getD fs
  | .error _ => return (fs.remove path).toOption.getD fs

def candidates (f : Follower) (fs : FileSystem) : List String :=
  f.settings.finder.find fs ++ f.registry.readers.map (·.path)

def pictureFor (f : Follower) (home : Place) : IO FileSystem := do
  let fs ← picture home (f.settings.finder.included ++ f.registry.readers.map (·.path))
  (candidates f fs).foldlM withContent fs

def clock : IO Timestamp := do
  let now ← Std.Time.Timestamp.now
  return .ofNanoseconds now.toNanosecondsSinceUnixEpoch.val

def writeStore (path : String) (store : CheckpointStore) : IO Unit := do
  let directory := (FilePath.pieces path).dropLast
  if directory.any (· ≠ "") then IO.FS.createDirAll ("/".intercalate directory)
  IO.FS.writeBinFile path (ByteArray.mk store.toBytes.toArray)

partial def follow (home : Place) (offsetsPath : String) (w : World) : IO UInt32 := do
  let fs ← pictureFor w.follower home
  let next := (World.poll { w with fs, sink := .healthy }).2
  let output ← IO.getStdout
  for event in next.sink.accepted do
    output.write (ByteArray.mk (Program.record (← clock) event).line.toArray)
  output.flush
  for path in candidates w.follower fs do
    if fs.present path && !next.fs.present path then IO.FS.removeFile path
  writeStore offsetsPath next.follower.store
  IO.sleep (UInt32.ofNat (next.follower.settings.pollInterval.nanoseconds / 1000000))
  follow home offsetsPath next

def run (words : List String) (values : List (String × String)) : IO UInt32 := do
  let environment := fun name => values.lookup name
  let home := placeOf (← IO.currentDir).toString
  let arguments := (Arguments.read words environment).toOption.getD {}
  let named := arguments.offsetsPath :: arguments.configPath.toList
  let fs ← named.foldlM withContent (← picture home named)
  match Program.start words environment fs with
  | .error ending =>
    for line in ending.output do
      IO.println line
    if let some complaint := ending.complaint then IO.eprintln complaint
    return UInt32.ofNat ending.exit.code
  | .ok start =>
    let fs ← pictureFor start.world.follower home
    let follower := (start.world.follower.load fs).toOption.getD start.world.follower
    follow home start.offsetsPath { start.world with follower }

end LogFollow.CommandLine

def main (words : List String) : IO UInt32 := do
  let names := LogFollow.Program.filterVariable ::
    LogFollow.Arguments.rules.filterMap (·.variableName)
  let values ← names.filterMapM fun name => do
    return (← IO.getEnv name).map fun value => (name, value)
  LogFollow.CommandLine.run words values
