import LogFollow.Config.Basic
import LogFollow.Finder

/-!
# Settings

Settings are a configuration that can run: its numbers are in range and its texts are compiled. The
first thing that is wrong with a configuration is the error that it is refused with.
-/

namespace LogFollow

structure FileAttributeChoice where
  name : Bool
  path : Bool
  /-- The name of the file that the links on the way lead to. -/
  nameResolved : Bool
  /-- The path of the file that the links on the way lead to. -/
  pathResolved : Bool
deriving DecidableEq, Repr

/-- What the readers of an input have in common. -/
structure ReadSettings where
  fingerprintSize : Nat
  maxLogSize : Nat
  encoding : Encoding
  framing : Framing
  header : Option HeaderRule
  fileAttributes : FileAttributeChoice
  deleteAfterRead : Bool

structure Settings extends ReadSettings where
  id : String
  finder : Finder
  pollInterval : Duration
  startAt : StartAt
  maxConcurrentFiles : Nat

namespace Config

def check (c : Config) : Except ConfigFault Unit := do
  if c.id.isEmpty then throw .emptyId
  if c.pollInterval.isZero then throw .zeroPollInterval
  if c.fingerprintSize < minFingerprintSize then throw (.smallFingerprint c.fingerprintSize)
  if c.maxLogSize = 0 then throw .zeroMaxLogSize
  if c.maxConcurrentFiles = 0 then throw .zeroMaxConcurrentFiles
  if c.deleteAfterRead ∧ c.startAt = .atEnd then throw .deleteFromEnd

def framing (c : Config) (encoding : Encoding) : Except Error Framing :=
  match c.multiline with
  | none => .ok encoding.lines
  | some { startPattern, endPattern } =>
    match startPattern, endPattern with
    | some _, some _ => .error (.config .twoPatterns)
    | some pattern, none => Framing.ofStartPattern pattern
    | none, some pattern => Framing.ofEndPattern pattern
    | none, none => .ok encoding.lines

def header (c : Config) : Except Error (Option HeaderRule) :=
  match c.attributeRegex with
  | none => .ok none
  | some pattern => (HeaderRule.ofPattern pattern).map some

def build (c : Config) : Except Error Settings := do
  c.check.mapError .config
  let finder ← Finder.new c.included c.excluded
  let encoding ← Encoding.named c.encoding
  let framing ← c.framing encoding
  let header ← c.header
  pure {
    fingerprintSize := c.fingerprintSize
    maxLogSize := c.maxLogSize
    encoding
    framing
    header
    fileAttributes :=
      ⟨c.includeFileName, c.includeFilePath, c.includeFileNameResolved, c.includeFilePathResolved⟩
    deleteAfterRead := c.deleteAfterRead
    id := c.id
    finder
    pollInterval := c.pollInterval
    startAt := c.startAt
    maxConcurrentFiles := c.maxConcurrentFiles }

end Config

end LogFollow
