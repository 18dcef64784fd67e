import LogFollow.Duration
import LogFollow.Json.Record

/-!
# Configurations

A configuration says which files to follow and how to read them. It is written as a JSON object; all
fields but the globs of the files have defaults, and no others are allowed.
-/

namespace LogFollow

/-- Where the reading of a file starts that the first poll finds. -/
inductive StartAt
  | beginning
  | atEnd
deriving DecidableEq, Repr

namespace StartAt

def name : StartAt → String
  | beginning => "beginning"
  | atEnd => "end"

def read : Json.Reads StartAt :=
  Json.choice ([beginning, atEnd].map fun s => (s.name, s))

end StartAt

/-- The patterns of entries of several lines. -/
structure Multiline where
  /-- An entry starts where this pattern matches. -/
  startPattern : Option String := none
  /-- An entry ends where this pattern matches. -/
  endPattern : Option String := none
deriving DecidableEq, Repr

namespace Multiline

def shape : Json.Shape Multiline where
  name := "struct MultilineConfig"
  extensible := false
  fields :=
    [.optional "line_start_pattern" (Json.orNull Json.text) fun m startPattern =>
      { m with startPattern },
     .optional "line_end_pattern" (Json.orNull Json.text) fun m endPattern =>
      { m with endPattern }]

def read : Json.Reads Multiline := shape.read {}

end Multiline

structure Config where
  /-- The name of the input, which is the scope of its checkpoints. -/
  id : String := "file_input"
  included : List String
  excluded : List String := []
  pollInterval : Duration := .ofMilliseconds 200
  startAt : StartAt := .atEnd
  fingerprintSize : Nat := 1000
  maxLogSize : Nat := 1024 * 1024
  maxConcurrentFiles : Nat := 512
  encoding : String := "utf-8"
  multiline : Option Multiline := none
  includeFileName : Bool := true
  includeFilePath : Bool := false
  includeFileNameResolved : Bool := false
  includeFilePathResolved : Bool := false
  attributeRegex : Option String := none
  deleteAfterRead : Bool := false
deriving DecidableEq, Repr

namespace Config

def readDuration : Json.Reads Duration := fun text => do
  let (s, rest) ← Json.readString "a duration" text
  match Duration.parse? s with
  | some d => pure (d, rest)
  | none => throw (.unfit s!"invalid value: string {Text.Quoted.render s}, expected a duration")

def shape : Json.Shape Config where
  name := "struct FileInputConfig"
  extensible := false
  fields :=
    [.optional "id" Json.text fun c id => { c with id },
     .needed "include" (Json.list Json.text) fun c included => { c with included },
     .optional "exclude" (Json.list Json.text) fun c excluded => { c with excluded },
     .optional "poll_interval" readDuration fun c pollInterval => { c with pollInterval },
     .optional "start_at" StartAt.read fun c startAt => { c with startAt },
     .optional "fingerprint_size" Json.size fun c fingerprintSize => { c with fingerprintSize },
     .optional "max_log_size" Json.size fun c maxLogSize => { c with maxLogSize },
     .optional "max_concurrent_files" Json.size fun c maxConcurrentFiles =>
       { c with maxConcurrentFiles },
     .optional "encoding" Json.text fun c encoding => { c with encoding },
     .optional "multiline" (Json.orNull Multiline.read) fun c multiline => { c with multiline },
     .optional "include_file_name" Json.bool fun c includeFileName => { c with includeFileName },
     .optional "include_file_path" Json.bool fun c includeFilePath => { c with includeFilePath },
     .optional "include_file_name_resolved" Json.bool fun c includeFileNameResolved =>
       { c with includeFileNameResolved },
     .optional "include_file_path_resolved" Json.bool fun c includeFilePathResolved =>
       { c with includeFilePathResolved },
     .optional "attribute_regex" (Json.orNull Json.text) fun c attributeRegex =>
       { c with attributeRegex },
     .optional "delete_after_read" Json.bool fun c deleteAfterRead => { c with deleteAfterRead }]

/-- A configuration with defaults for all that is not given. -/
def ofGlobs (included : List String) : Config := { included }

def parse (text : String) : Except Json.Fault Config :=
  Json.readAll (shape.read (ofGlobs [])) text

end Config

end LogFollow
