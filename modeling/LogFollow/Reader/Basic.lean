import LogFollow.Checkpoint.Basic
import LogFollow.Config.Settings
import LogFollow.FileSystem

/-!
# Readers

A reader knows one file: the path under which it was last found, its fingerprint, and how far it was
read. While the header of the file is being read, the reader collects its attributes; from the first
line on that is no header line they are fixed.
-/

namespace LogFollow

inductive HeaderState
  /-- The lines so far are header lines, with these attributes. -/
  | reading (found : Attributes)
  | done (attributes : Attributes)
deriving DecidableEq

namespace HeaderState

def attributes? : HeaderState → Option Attributes
  | reading _ => none
  | done attributes => some attributes

/-- The header of a file that is read from its beginning. -/
def initial (settings : ReadSettings) : HeaderState :=
  if settings.header.isSome then .reading .empty else .done .empty

end HeaderState

structure Reader where
  path : String
  fingerprint : Fingerprint
  /-- The index of the first byte that has not been delivered. -/
  offset : Nat
  lastSeenSize : Nat
  /-- The number of the poll in which the reader was last found. -/
  generation : Nat
  header : HeaderState
  fileAttributes : Attributes
deriving DecidableEq

/-- The attributes of the file at a path. Those that need the links to be followed are left out where
they cannot be. -/
def FileAttributeChoice.attributes (choice : FileAttributeChoice) (fs : FileSystem)
    (path : String) : Attributes :=
  let named := fun (wanted : Bool) key path =>
    match FilePath.fileName? path with
    | some name => if wanted then [(key, name)] else []
    | none => []
  let resolved :=
    if choice.nameResolved || choice.pathResolved then
      match fs.canonical path with
      | .ok resolved =>
        named choice.nameResolved "file_name_resolved" resolved ++
          (if choice.pathResolved then [("file_path_resolved", resolved)] else [])
      | .error _ => []
    else []
  Attributes.ofList <|
    named choice.name "file_name" path ++ (if choice.path then [("file_path", path)] else []) ++
      resolved

namespace Reader

def build (settings : ReadSettings) (fs : FileSystem) (path : String) (fingerprint : Fingerprint)
    (offset lastSeenSize : Nat) (header : HeaderState) : Reader :=
  { path, fingerprint, offset, lastSeenSize, generation := 0, header
    fileAttributes := settings.fileAttributes.attributes fs path }

/-- A reader of a file that is seen for the first time. A file that is not read from its beginning has
no header. -/
def new (settings : ReadSettings) (fs : FileSystem) (path : String) (fingerprint : Fingerprint)
    (offset : Nat) : Reader :=
  build settings fs path fingerprint offset 0
    (if offset = 0 then .initial settings else .done .empty)

def inherit (settings : ReadSettings) (fs : FileSystem) (path : String) (fingerprint : Fingerprint)
    (previous : Reader) : Reader :=
  build settings fs path fingerprint previous.offset previous.lastSeenSize previous.header

def ofCheckpoint (settings : ReadSettings) (fs : FileSystem) (c : Checkpoint) : Reader :=
  build settings fs c.path c.fingerprint c.offset c.lastSeenSize <|
    match c.header with
    | some attributes => .done attributes
    | none => .initial settings

/-- The checkpoint of a reader. A header that has not ended is read again from its beginning, since
its lines are never delivered. -/
def checkpoint (r : Reader) : Checkpoint :=
  { path := r.path
    fingerprint := r.fingerprint
    offset :=
      match r.header with
      | .reading _ => 0
      | .done _ => r.offset
    lastSeenSize := r.lastSeenSize
    header := r.header.attributes? }

end Reader

def FileSystem.Opened.fingerprint (opened : Opened) (limit : Nat) : Except IoError Fingerprint :=
  match opened with
  | .file content => .ok (Fingerprint.capture { content } limit).1
  | .directory => .error .isDirectory

end LogFollow
