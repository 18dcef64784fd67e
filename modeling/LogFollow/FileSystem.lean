import LogFollow.Bytes
import LogFollow.FilePath
import LogFollow.IoError

/-!
# The file system

The file system maps places, which are lists of names from the root on, to nodes: files with their
content, directories, and symbolic links with the path that they point to. A path is followed from the
home directory, through the links on its way, to its place.
-/

namespace LogFollow

inductive Node
  | file (content : Bytes)
  | directory
  /-- A symbolic link to a path, seen from the directory that holds the link. -/
  | link (target : String)
deriving DecidableEq, Repr

/-- The names from the root to a place. -/
abbrev Place := List String

structure FileSystem where
  /-- The directory that relative paths start from. -/
  home : Place
  nodes : List (Place × Node)
deriving DecidableEq

namespace FileSystem

def empty : FileSystem := { home := ["work"], nodes := [(["work"], .directory)] }

instance : Inhabited FileSystem := ⟨empty⟩

def node? (fs : FileSystem) : Place → Option Node
  | [] => some .directory
  | place => fs.nodes.lookup place

def put (fs : FileSystem) (place : Place) (node : Node) : FileSystem :=
  { fs with nodes := (place, node) :: fs.nodes.filter (·.1 != place) }

def prune (fs : FileSystem) (place : Place) : FileSystem :=
  { fs with nodes := fs.nodes.filter fun entry => !place.isPrefixOf entry.1 }

def nameLimit : Nat := 255

/-- The number of bytes that a path must stay below. -/
def pathLimit : Nat := 4096

/-- The number of links that may be followed on the way to a place. -/
def linkLimit : Nat := 40

/-- The steps along a path: its names, and a dot for a slash at the end, since only a directory may
stand before it. -/
def steps (path : String) : List String :=
  let names := (FilePath.pieces path).filter (· ≠ "")
  if FilePath.endsWithSlash path then names ++ ["."] else names

/-- Where a path that is seen from a directory starts. -/
def origin (directory : Place) (path : String) : Place :=
  if FilePath.isAbsolute path then [] else directory

/-- Follows steps from a place; `links` is the number of links that may still be followed. A link at
the last step is followed only if `follow` is set. The last step may lead to a place where nothing
stands. -/
def locate (fs : FileSystem) (follow : Bool) (links : Nat) (here : Place) :
    List String → Except IoError Place
  | [] => .ok here
  | name :: rest =>
    match fs.node? here with
    | some .directory =>
      if name = "." then locate fs follow links here rest
      else if name = ".." then locate fs follow links here.dropLast rest
      else if name.utf8ByteSize > nameLimit then .error .nameTooLong
      else
        let place := here ++ [name]
        match fs.node? place with
        | some (.link target) =>
          if rest.isEmpty && !follow then .ok place
          else
            match links with
            | 0 => .error .tooManyLinks
            | links + 1 => locate fs follow links (origin here target) (steps target ++ rest)
        | some _ => locate fs follow links place rest
        | none => if rest.isEmpty then .ok place else .error .notFound
    | some _ => .error .notDirectory
    | none => .error .notFound
termination_by names => (links, names.length)

def checkPath (path : String) : Except IoError Unit :=
  if path.isEmpty then .error .notFound
  else if path.toList.contains '\x00' then .error .nulInPath
  else if path.utf8ByteSize ≥ pathLimit then .error .nameTooLong
  else .ok ()

/-- The place that a path leads to; something need not stand there. -/
def find (fs : FileSystem) (follow : Bool) (path : String) : Except IoError Place := do
  let _ ← checkPath path
  fs.locate follow linkLimit (origin fs.home path) (steps path)

def resolve (fs : FileSystem) (follow : Bool) (path : String) : Except IoError (Place × Node) := do
  let place ← fs.find follow path
  match fs.node? place with
  | some node => pure (place, node)
  | none => throw .notFound

def isDirectory (fs : FileSystem) (path : String) : Bool :=
  match fs.resolve true path with
  | .ok (_, .directory) => true
  | _ => false

/-- Whether there is something at a path, if only a link that leads nowhere. -/
def present (fs : FileSystem) (path : String) : Bool :=
  (fs.resolve false path).isOk

def names (fs : FileSystem) (path : String) : List String :=
  match fs.resolve true path with
  | .ok (place, .directory) =>
    (fs.nodes.filterMap fun entry =>
      if entry.1.dropLast = place then entry.1.getLast? else none).mergeSort
  | _ => []

/-- The path without links, dots and double dots that leads to the same place. -/
def canonical (fs : FileSystem) (path : String) : Except IoError String := do
  let (place, _) ← fs.resolve true path
  pure ("/" ++ "/".intercalate place)

/-- What opening a path gives: the content of a file, or a directory, which cannot be read. -/
inductive Opened
  | file (content : Bytes)
  | directory
deriving DecidableEq, Repr

def directorySize : Nat := 4096

def Opened.size : Opened → Nat
  | .file content => content.length
  | .directory => directorySize

def openPath (fs : FileSystem) (path : String) : Except IoError Opened := do
  match ← fs.resolve true path with
  | (_, .file content) => pure (.file content)
  | _ => pure .directory

def readFile (fs : FileSystem) (path : String) : Except IoError Bytes := do
  match ← fs.openPath path with
  | .file content => pure content
  | .directory => throw .isDirectory

/-! ## Changes -/

/-- A name that stands in a directory, as the last part of a path gives it. `slash` tells that a slash
follows it. -/
structure Entry where
  directory : Place
  name : String
  slash : Bool
deriving DecidableEq, Repr

namespace Entry

/-- Whether the last part of the path is a name of its own, and not a way along the path. -/
def isName (e : Entry) : Bool := e.name != "" && e.name != "." && e.name != ".."

def place (e : Entry) : Place := e.directory ++ [e.name]

end Entry

/-- The entry that a path is about. The directory that holds it must be there, the entry itself need
not. -/
def entry (fs : FileSystem) (path : String) : Except IoError Entry := do
  let _ ← checkPath path
  let names := (FilePath.pieces path).filter (· ≠ "")
  let directory ← fs.locate true linkLimit (origin fs.home path) (names.dropLast ++ ["."])
  pure { directory, name := names.getLast?.getD "", slash := FilePath.endsWithSlash path }

def lookUp (fs : FileSystem) (e : Entry) : Except IoError (Option Node) :=
  if e.name.utf8ByteSize > nameLimit then .error .nameTooLong else .ok (fs.node? e.place)

def makeOne (fs : FileSystem) (path : String) : Except IoError FileSystem := do
  let e ← fs.entry path
  if !e.isName then throw .alreadyExists
  match ← fs.lookUp e with
  | some _ => throw .alreadyExists
  | none => return fs.put e.place .directory

/-- Makes the directory of the first path, and for it those of the further paths, each of which holds
the one before it. What was made before a failure stays. -/
def makeChain (fs : FileSystem) : List String → FileSystem × Option IoError
  | [] => (fs, none)
  | path :: above =>
    let settle (fs : FileSystem) (e : IoError) : FileSystem × Option IoError :=
      (fs, if fs.isDirectory path then none else some e)
    match fs.makeOne path with
    | .ok fs => (fs, none)
    | .error .notFound =>
      match fs.makeChain above with
      | (fs, some e) => (fs, some e)
      | (fs, none) =>
        match fs.makeOne path with
        | .ok fs => (fs, none)
        | .error e => settle fs e
    | .error e => settle fs e

/-- Makes a directory, and the directories on the way to it. What was made before a failure stays. -/
def makeDirectory (fs : FileSystem) (path : String) : FileSystem × Option IoError :=
  if path.isEmpty then (fs, none) else fs.makeChain (path :: FilePath.above path)

/-- Makes the directories on the way to a path. What was made before a failure stays. -/
def makeParents (fs : FileSystem) (path : String) : FileSystem × Option IoError :=
  fs.makeChain (FilePath.above path)

/-- Sets the content of a file from the content it had; a missing file had none. -/
def update (fs : FileSystem) (path : String) (change : Option Bytes → Except IoError Bytes) :
    Except IoError FileSystem := do
  let place ← fs.find true path
  match fs.node? place with
  | some (.file content) => return fs.put place (.file (← change (some content)))
  | some _ => throw .isDirectory
  | none => return fs.put place (.file (← change none))

/-- Sets the content of a file that is made if it is missing. A path that ends with a slash can only
be a directory. -/
def updateOrMake (fs : FileSystem) (path : String) (change : Option Bytes → Bytes) :
    Except IoError FileSystem := do
  if (← fs.entry path).slash then throw .isDirectory
  fs.update path fun content => pure (change content)

def write (fs : FileSystem) (path : String) (content : Bytes) : Except IoError FileSystem :=
  fs.updateOrMake path fun _ => content

def append (fs : FileSystem) (path : String) (more : Bytes) : Except IoError FileSystem :=
  fs.updateOrMake path fun content => content.getD [] ++ more

def truncate (fs : FileSystem) (path : String) (size : Nat) : Except IoError FileSystem :=
  fs.update path fun
    | some content => pure (content.take size ++ List.replicate (size - content.length) 0)
    | none => throw .notFound

def copy (fs : FileSystem) (source target : String) : Except IoError FileSystem := do
  match ← fs.openPath source with
  | .directory =>
    throw (.other "the source path is neither a regular file nor a symlink to a regular file")
  | .file content =>
    if (fs.find true source).toOption = (fs.find true target).toOption then fs.write target []
    else fs.write target content

def move (fs : FileSystem) (source target : Place) : FileSystem :=
  let moved := (fs.nodes.filter fun entry => source.isPrefixOf entry.1).map fun entry =>
    (target ++ entry.1.drop source.length, entry.2)
  { fs with nodes := moved ++ ((fs.prune source).prune target).nodes }

def isEmptyDirectory (fs : FileSystem) (place : Place) : Bool :=
  !fs.nodes.any fun entry => entry.1 != place && place.isPrefixOf entry.1

/-- Renames a file, a directory or a link. What stands at the new path is replaced; a directory only
by a directory, and only if it is empty. -/
def rename (fs : FileSystem) (source target : String) : Except IoError FileSystem := do
  let old ← fs.entry source
  let new ← fs.entry target
  if !old.isName || !new.isName then throw .busy
  let some node ← fs.lookUp old | throw .notFound
  let replaced ← fs.lookUp new
  if node != .directory && (old.slash || new.slash) then throw .notDirectory
  if old.place.isPrefixOf new.directory then throw .invalid
  if new.place.isPrefixOf old.directory then throw .notEmpty
  if old.place = new.place then return fs
  match node, replaced with
  | .directory, some .directory =>
    if fs.isEmptyDirectory new.place then return fs.move old.place new.place else throw .notEmpty
  | .directory, some _ => throw .notDirectory
  | _, some .directory => throw .isDirectory
  | _, _ => return fs.move old.place new.place

def remove (fs : FileSystem) (path : String) : Except IoError FileSystem := do
  let e ← fs.entry path
  if !e.isName then throw .isDirectory
  match ← fs.lookUp e with
  | none => throw .notFound
  | some .directory => throw .isDirectory
  | some _ => if e.slash then throw .notDirectory else return fs.prune e.place

def clear (fs : FileSystem) (place : Place) : FileSystem :=
  { fs with nodes := fs.nodes.filter fun entry => entry.1 = place || !place.isPrefixOf entry.1 }

def removeEmpty (fs : FileSystem) (path : String) : Except IoError FileSystem := do
  let e ← fs.entry path
  if e.name = "." then throw .invalid
  if e.name = ".." then throw .notEmpty
  if e.name = "" then throw .busy
  match ← fs.lookUp e with
  | none => throw .notFound
  | some .directory => return fs.prune e.place
  | some _ => throw .notDirectory

/-- Removes a directory and all below it, or a link. All below it is gone even if the directory cannot
be removed itself; if it is gone too by then, that is no failure. -/
def removeDirectory (fs : FileSystem) (path : String) : FileSystem × Option IoError :=
  match fs.resolve false path with
  | .error e => (fs, some e)
  | .ok (_, .file _) => (fs, some .notDirectory)
  | .ok (place, .link _) => (fs.prune place, none)
  | .ok (place, .directory) =>
    let fs := fs.clear place
    match fs.removeEmpty path with
    | .ok fs => (fs, none)
    | .error .notFound => (fs, none)
    | .error e => (fs, some e)

def link (fs : FileSystem) (target path : String) : Except IoError FileSystem := do
  let _ ← checkPath target
  let e ← fs.entry path
  if !e.isName then throw .alreadyExists
  match ← fs.lookUp e with
  | some _ => throw .alreadyExists
  | none => if e.slash then throw .notFound else return fs.put e.place (.link target)

end FileSystem

end LogFollow
