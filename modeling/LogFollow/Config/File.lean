import LogFollow.Config.Basic
import LogFollow.FileSystem
import LogFollow.Text.Utf8

/-!
# Configuration files

A configuration can be read from a file, which must hold nothing but its JSON in UTF-8.
-/

namespace LogFollow

inductive ConfigFileFault
  | unopened (path : String) (cause : IoError)
  | unread (path : String) (cause : IoError)
  | malformed (path : String)
deriving DecidableEq, Repr

def ConfigFileFault.message : ConfigFileFault → String
  | unopened path cause => s!"failed to open config {path}: {cause.message}"
  | unread path cause => s!"failed to parse config {path}: {cause.message}"
  | malformed path => s!"failed to parse config {path}"

namespace Config

/-- The configuration that bytes hold. -/
def ofBytes? (content : Bytes) : Option Config :=
  match Text.Utf8.read content with
  | .ok text => (parse text).toOption
  | .error _ => none

def ofFile (fs : FileSystem) (path : String) : Except ConfigFileFault Config :=
  match fs.openPath path with
  | .error cause => .error (.unopened path cause)
  | .ok .directory => .error (.unread path .isDirectory)
  | .ok (.file content) =>
    match ofBytes? content with
    | some config => .ok config
    | none => .error (.malformed path)

end Config

end LogFollow
