import LogFollow.Checkpoint.Codec
import LogFollow.Glob.Pattern
import LogFollow.IoError
import LogFollow.Pattern.Regex
import LogFollow.Text.Quoted

/-!
# Errors

What can go wrong in following files, as causes. Each error has a kind, and the kind fixes how the
detail of the error is put into words.
-/

namespace LogFollow

inductive ErrorKind
  | io
  | config
  | invalidGlob
  | regex
  | unsupportedEncoding
  | entryTooLarge
  | fileNotFound
  | persistence
  | serialization
  | task
  | sinkClosed
deriving DecidableEq, Repr

/-- The text of an error of a kind; `detail` is what tells it from others of its kind. -/
def ErrorKind.describe (kind : ErrorKind) (detail : String) : String :=
  match kind with
  | io => s!"IO error: {detail}"
  | config => s!"Configuration error: {detail}"
  | invalidGlob => s!"Invalid glob pattern: {detail}"
  | regex => s!"Regex error: {detail}"
  | unsupportedEncoding => s!"Unsupported encoding '{detail}'"
  | entryTooLarge =>
    s!"log entry too large ({detail}): increase max_log_size or ensure that multiline regex patterns terminate"
  | fileNotFound => s!"File not found: {detail}"
  | persistence => s!"Persistence error: {detail}"
  | serialization => s!"Serialization error: {detail}"
  | task => s!"Task failed: {detail}"
  | sinkClosed => "Sink closed"

/-- The least number of bytes of a fingerprint that may be configured. -/
def minFingerprintSize : Nat := 16

inductive ConfigFault
  | emptyId
  | zeroPollInterval
  | smallFingerprint (size : Nat)
  | zeroMaxLogSize
  | zeroMaxConcurrentFiles
  /-- Files that are read from their end on would be deleted unread. -/
  | deleteFromEnd
  | emptyInclude
  | twoPatterns
  | headerGroups (names : List String)
deriving DecidableEq, Repr

/-- A list of names as it is shown in a text. -/
def quotedList (names : List String) : String :=
  "[" ++ ", ".intercalate (names.map Text.Quoted.render) ++ "]"

def ConfigFault.message : ConfigFault → String
  | emptyId => "id must not be empty"
  | zeroPollInterval => "poll_interval must be greater than 0"
  | smallFingerprint size =>
    s!"fingerprint_size must be at least {minFingerprintSize} bytes, got {size}"
  | zeroMaxLogSize => "max_log_size must be greater than 0"
  | zeroMaxConcurrentFiles => "max_concurrent_files must be greater than 0"
  | deleteFromEnd => "delete_after_read cannot be used with start_at = end"
  | emptyInclude => "include must not be empty"
  | twoPatterns => "only one of line_start_pattern and line_end_pattern may be set"
  | headerGroups names =>
    s!"attribute_regex must have exactly two named capture groups, key and value, found {quotedList names}"

/-- What a glob pattern is for. -/
inductive GlobRole
  | including
  | excluding
deriving DecidableEq, Repr

def GlobRole.name : GlobRole → String
  | including => "include"
  | excluding => "exclude"

/-- What a text pattern is for. -/
inductive PatternRole
  | multiline
  | header
deriving DecidableEq, Repr

def PatternRole.name : PatternRole → String
  | multiline => "multiline pattern"
  | header => "attribute_regex"

inductive Error
  | io (cause : IoError)
  | config (fault : ConfigFault)
  | invalidGlob (role : GlobRole) (pattern : String) (fault : Glob.PatternError)
  | regex (role : PatternRole) (refusal : Pattern.Refusal)
  | unsupportedEncoding (name : String)
  | entryTooLarge (size max : Nat)
  | fileNotFound (path : String)
  /-- The store of checkpoints could not be opened. -/
  | persistence (cause : IoError)
  | serialization (fault : DecodeFault)
  /-- A reader broke down with a message. -/
  | task (message : String)
  | sinkClosed
deriving DecidableEq, Repr

namespace Error

def kind : Error → ErrorKind
  | io _ => .io
  | config _ => .config
  | invalidGlob .. => .invalidGlob
  | regex .. => .regex
  | unsupportedEncoding _ => .unsupportedEncoding
  | entryTooLarge .. => .entryTooLarge
  | fileNotFound _ => .fileNotFound
  | persistence _ => .persistence
  | serialization _ => .serialization
  | task _ => .task
  | sinkClosed => .sinkClosed

/-- What tells an error from others of its kind. -/
def detail : Error → String
  | io cause => cause.message
  | config fault => fault.message
  | invalidGlob role pattern fault => s!"{role.name} '{pattern}': {fault.message}"
  | regex role refusal => s!"compile {role.name}: {refusal.message}"
  | unsupportedEncoding name => name
  | entryTooLarge size max => s!"{size} bytes, max {max}"
  | fileNotFound path => path
  | persistence cause => s!"open database: {cause.message}"
  | serialization fault => fault.message
  | task message => s!"reader panicked: {message}"
  | sinkClosed => ""

def message (e : Error) : String := e.kind.describe e.detail

end Error

end LogFollow
