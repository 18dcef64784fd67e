import LogFollow.CommandLine.Grammar
import LogFollow.Config.File
import LogFollow.Config.Overrides

/-!
# The arguments of the program

The words of the command line that belong to no option are the globs of the files to follow. Most
options override a field of the configuration, which comes from a file or has its defaults.
-/

namespace LogFollow

/-- The forms of the messages that the program writes about itself. -/
inductive LogFormat
  | text
  | json
deriving DecidableEq, Repr

def LogFormat.name : LogFormat → String
  | text => "text"
  | json => "json"

/-- What the command line and the environment say. -/
structure Arguments where
  configPath : Option String := none
  overrides : Overrides := {}
  /-- The file with the store of checkpoints. -/
  offsetsPath : String := "logtail-offsets.redb"
  logFormat : LogFormat := .text
deriving DecidableEq, Repr

namespace Arguments

open CommandLine

def text (s : String) : Except Misuse String := .ok s

/-- A path, which cannot be empty. -/
def path (s : String) : Except Misuse String := if s.isEmpty then .error .badValue else .ok s

/-- The parts of a text between commas. -/
def betweenCommas (s : String) : List String :=
  (s.toList.splitOn ',').map String.ofList

def maxNumber : Nat := 18446744073709551615

def ofDigits (digits : List Char) : Except Misuse Nat :=
  if digits.isEmpty || !digits.all Char.isDigit then .error .badNumber
  else
    let n := digits.foldl (fun n c => n * 10 + (c.toNat - '0'.toNat)) 0
    if n ≤ maxNumber then .ok n else .error .badNumber

/-- A number, which may have a plus sign. -/
def number (s : String) : Except Misuse Nat :=
  match s.toList with
  | '+' :: digits => ofDigits digits
  | digits => ofDigits digits

/-- One of several values, by its name. -/
def oneOf {α : Type} (name : α → String) (choices : List α) (s : String) : Except Misuse α :=
  match choices.find? (name · = s) with
  | some a => .ok a
  | none => .error .badValue

def overriding (f : Overrides → Overrides) (a : Arguments) : Arguments :=
  { a with overrides := f a.overrides }

/-- An option with a value that may be given once. -/
def single {β : Type} (name source : String) (read : String → Except Misuse β)
    (set : Arguments → β → Arguments) : OptionRule Arguments where
  name
  variableName := some source
  form := .value false fun s => (read s).map fun b a => set a b

def override {β : Type} (name source : String) (read : String → Except Misuse β)
    (set : Overrides → β → Overrides) : OptionRule Arguments :=
  single name source read fun a b => a.overriding (set · b)

def switch (name source : String) (set : Overrides → Overrides) : OptionRule Arguments where
  name
  variableName := some source
  form := .flag (overriding set)

def rules : List (OptionRule Arguments) :=
  [single "config" "LOGTAIL_CONFIG" path fun a b => { a with configPath := some b },
   override "id" "LOGTAIL_ID" text fun o b => { o with id := some b },
   { name := "exclude"
     variableName := some "LOGTAIL_EXCLUDE"
     form := .value true fun s => .ok <| overriding fun o =>
       { o with excluded := o.excluded ++ betweenCommas s } },
   override "start-at" "LOGTAIL_START_AT" (oneOf StartAt.name [.beginning, .atEnd]) fun o b =>
     { o with startAt := some b },
   override "poll-interval-ms" "LOGTAIL_POLL_INTERVAL_MS" number fun o b =>
     { o with pollInterval := some (.ofMilliseconds b) },
   override "fingerprint-size" "LOGTAIL_FINGERPRINT_SIZE" number fun o b =>
     { o with fingerprintSize := some b },
   override "max-log-size" "LOGTAIL_MAX_LOG_SIZE" number fun o b => { o with maxLogSize := some b },
   override "max-concurrent-files" "LOGTAIL_MAX_CONCURRENT_FILES" number fun o b =>
     { o with maxConcurrentFiles := some b },
   override "encoding" "LOGTAIL_ENCODING" text fun o b => { o with encoding := some b },
   override "line-start-pattern" "LOGTAIL_LINE_START_PATTERN" text fun o b =>
     { o with multiline := { o.multiline with startPattern := some b } },
   override "line-end-pattern" "LOGTAIL_LINE_END_PATTERN" text fun o b =>
     { o with multiline := { o.multiline with endPattern := some b } },
   switch "include-file-path" "LOGTAIL_INCLUDE_FILE_PATH" fun o =>
     { o with includeFilePath := true },
   switch "include-file-name-resolved" "LOGTAIL_INCLUDE_FILE_NAME_RESOLVED" fun o =>
     { o with includeFileNameResolved := true },
   switch "include-file-path-resolved" "LOGTAIL_INCLUDE_FILE_PATH_RESOLVED" fun o =>
     { o with includeFilePathResolved := true },
   override "attribute-regex" "LOGTAIL_ATTRIBUTE_REGEX" text fun o b =>
     { o with attributeRegex := some b },
   switch "delete-after-read" "LOGTAIL_DELETE_AFTER_READ" fun o =>
     { o with deleteAfterRead := true },
   single "offsets-path" "LOGTAIL_OFFSETS_PATH" path fun a b => { a with offsetsPath := b },
   single "log-format" "LOGTAIL_LOG_FORMAT" (oneOf LogFormat.name [.text, .json]) fun a b =>
     { a with logFormat := b },
   { name := "help", letter := some 'h', form := .detour .help },
   { name := "version", letter := some 'V', form := .detour .version }]

def grammar : Grammar Arguments where
  rules
  addWord := fun word => overriding fun o => { o with included := o.included ++ [word] }

/-- Reads the command line and the variables of the environment. -/
def read (words : List String) (environment : String → Option String) : Except Detour Arguments :=
  grammar.read {} words environment

/-- The configuration that the overrides apply to. -/
def baseConfig (a : Arguments) (fs : FileSystem) : Except ConfigFileFault Config :=
  match a.configPath with
  | some path => Config.ofFile fs path
  | none => .ok (.ofGlobs [])

def config (a : Arguments) (fs : FileSystem) : Except ConfigFileFault Config :=
  (a.baseConfig fs).map a.overrides.apply

end Arguments

end LogFollow
