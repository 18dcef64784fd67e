import LogFollow.Checkpoint.Store
import LogFollow.Error
import LogFollow.FileSystem

/-!
# The file of a store

A durable store is kept in a file, which begins with a mark. A file that does not exist, and one
without bytes, is a store without records.
-/

namespace LogFollow.CheckpointStore

/-- What the file of a store begins with. -/
def fileMark : Bytes := Bytes.ofString "checkpoint records\n"

def putRecord (record : String × Bytes) : Bytes :=
  Codec.putText record.1 ++ Codec.putBytes record.2

def getRecord : Codec.Reads (String × Bytes) := fun bytes => do
  let (key, rest) ← Codec.getText bytes
  let (value, rest) ← Codec.getBytes .ended rest
  pure ((key, value), rest)

def toBytes (s : CheckpointStore) : Bytes := fileMark ++ Codec.putList putRecord s.records

def ofBytes? (bytes : Bytes) : Option CheckpointStore :=
  if bytes.isEmpty then some { durable := true }
  else if fileMark.isPrefixOf bytes then
    match Codec.getList getRecord (bytes.drop fileMark.length) with
    | .ok (records, _) => some { durable := true, records }
    | .error _ => none
  else none

/-- Opens the store in a file. Directories on the way to it that are missing are made. -/
def openFile (fs : FileSystem) (path : String) : Except Error CheckpointStore :=
  let opened : Except IoError CheckpointStore := do
    let fs ← match fs.makeParents path with
      | (fs, none) => pure fs
      | (_, some e) => throw e
    let fs ← match fs.openPath path with
      | .error .notFound => fs.write path []
      | _ => pure fs
    match ofBytes? (← fs.readFile path) with
    | some store => pure store
    | none => throw .invalid
  opened.mapError .persistence

end LogFollow.CheckpointStore
