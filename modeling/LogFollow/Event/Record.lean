import LogFollow.Event.Basic
import LogFollow.Event.Timestamp
import LogFollow.Json.Tree
import LogFollow.Text.Utf8

/-!
# Event records

A record is an event with its timestamp and, if it has one, its severity. Records are written as JSON
objects, one to a line. The body is a string where it is a text, and a list of numbers where it is
bytes. A severity that is missing and attributes that are empty are not written.
-/

namespace LogFollow

/-- An event as it is passed on. -/
structure EventRecord where
  timestamp : Timestamp
  severity : Option Severity
  body : Body
  attributes : Attributes
deriving DecidableEq

namespace EventRecord

/-- How deeply a body may be nested. -/
def bodyDepth : Nat := 126

def byte? : Json.Tree → Option UInt8
  | .number (.unsigned n) => if n < 256 then some (UInt8.ofNat n) else none
  | _ => none

def bodyOf? : Json.Tree → Option Body
  | .string s => some (.text s)
  | .list elements => (elements.mapM byte?).map .bytes
  | _ => none

def readBody : Json.Reads Body := fun text => do
  let (value, rest) ← Json.Tree.read bodyDepth text
  match bodyOf? value with
  | some body => pure (body, rest)
  | none => throw (.unfit "data did not match any variant of untagged enum Body")

def readAttributes : Json.Reads Attributes := fun text => do
  let (members, rest) ← Json.map Json.text text
  pure (Attributes.ofList members, rest)

/-- The form of a record. Fields with other names do not matter. -/
def shape : Json.Shape EventRecord where
  name := "struct Event"
  extensible := true
  fields :=
    [.needed "timestamp" Timestamp.read fun r timestamp => { r with timestamp },
     .optional "severity" (Json.orNull Severity.read) fun r severity => { r with severity },
     .needed "body" readBody fun r body => { r with body },
     .optional "attributes" readAttributes fun r attributes => { r with attributes }]

/-- The record before its fields are read. -/
def blank : EventRecord :=
  { timestamp := ⟨⟨1970, 1, 1⟩, 0, 0⟩, severity := none, body := .text "", attributes := .empty }

def parse (text : String) : Except Json.Fault EventRecord :=
  Json.readAll (shape.read blank) text

def writeBody : Body → List Char
  | .text s => Json.writeString s
  | .bytes b => Json.writeList (b.map fun x => Json.writeNat x.toNat)

def writeAttributes (a : Attributes) : List Char :=
  Json.writeObject (a.entries.map fun (key, value) => (key, Json.writeString value))

def members (r : EventRecord) : List (String × List Char) :=
  [("timestamp", Json.writeString r.timestamp.render)] ++
  (match r.severity with
    | some severity => [("severity", severity.write)]
    | none => []) ++
  [("body", writeBody r.body)] ++
  (if r.attributes.isEmpty then [] else [("attributes", writeAttributes r.attributes)])

def render (r : EventRecord) : String := String.ofList (Json.writeObject r.members)

/-- The line that is written for a record, with its newline. -/
def line (r : EventRecord) : Bytes := Bytes.ofString r.render ++ [0x0A]

/-- What is written for records, one to a line. -/
def print (records : List EventRecord) : Bytes := records.flatMap line

def ofBytes? (bytes : Bytes) : Option EventRecord :=
  match Text.Utf8.read bytes with
  | .ok text => (parse text).toOption
  | .error _ => none

def addAttribute (r : EventRecord) (key value : String) : EventRecord :=
  { r with attributes := r.attributes.insert key value }

end EventRecord

end LogFollow
