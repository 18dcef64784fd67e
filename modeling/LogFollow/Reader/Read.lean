import LogFollow.Reader.Basic
import LogFollow.Scanner
import LogFollow.Sink

/-!
# Reading a file

A reading delivers the entries of a file from the offset of its reader on. The offset follows each
entry that was delivered, dropped or empty, and stays before one that was not; so a reading that stops
early is taken up at the right place by the next one. What forms no entry at the end of the file is
left for later, unless the file has not grown since the last reading, or the reading is the last one.
-/

namespace LogFollow

structure ReadOutcome where
  emitted : Nat
  /-- Whether all bytes were read that were there when the reading began. -/
  reachedEnd : Bool
deriving DecidableEq, Repr

structure Reading where
  outcome : Except Error ReadOutcome
  reader : Reader
  sink : Sink

structure Session where
  reader : Reader
  decoder : Decoder
  sink : Sink
  emitted : Nat := 0

namespace Session

/-- The text of a body, in which a header line is looked for. -/
def lineOf : Body → String
  | .text s => s
  | .bytes b => Text.Utf8.decode b

/-- Takes a body for a header line, if a header is being read and the body is one. If it is none, the
header has ended. Tells whether it was one. -/
def takeHeader (settings : ReadSettings) (s : Session) (body : Body) : Bool × Session :=
  match settings.header, s.reader.header with
  | some rule, .reading found =>
    match rule.extract? (lineOf body) found with
    | some found => (true, { s with reader.header := .reading found })
    | none => (false, { s with reader.header := .done found })
  | _, _ => (false, s)

/-- The event of a body. The attributes of the file win over those of its header. -/
def eventOf (r : Reader) (body : Body) : Event :=
  { body, attributes := ((r.header.attributes?).getD .empty).override r.fileAttributes }

/-- Delivers a token. Empty tokens and header lines are passed over. -/
def emit (settings : ReadSettings) (s : Session) (token : Bytes) : Except Error Unit × Session :=
  if token.isEmpty then (.ok (), s)
  else
    let (body, decoder) := s.decoder.decode token
    let (isHeader, s) := takeHeader settings { s with decoder } body
    if isHeader then (.ok (), s)
    else
      let (offer, sink) := s.sink.offer (eventOf s.reader body)
      let s := { s with sink }
      match offer with
      | .accepted => (.ok (), { s with emitted := s.emitted + 1 })
      | .refused => (.error .sinkClosed, s)
      | .broken message => (.error (.task message), s)

def advance (s : Session) (place : Nat) : Session := { s with reader.offset := place }

def looked (s : Session) : Session := { s with sink := s.sink.look.2 }

/-- How a run over the tokens of a file has ended. -/
inductive Ending
  /-- There are no more tokens; `framed` tells whether there were any. -/
  | exhausted (framed : Bool)
  | stopped
  | failed (e : Error)

def deliver (settings : ReadSettings) :
    (fuel : Nat) → (framed : Bool) → Scanner → Session → Ending × Scanner × Session
  | 0, framed, scanner, s => (.exhausted framed, scanner, s)
  | fuel + 1, framed, scanner, s =>
    if s.sink.look.1 then (.stopped, scanner, s.looked)
    else
      match scanner.next with
      | (.exhausted, scanner) => (.exhausted framed, scanner, s.looked)
      | (.failed cause, scanner) => (.failed (.io cause), scanner, s.looked)
      | (.found (.oversized _), scanner) =>
        deliver settings fuel true scanner (s.looked.advance scanner.position)
      | (.found (.token token), scanner) =>
        match s.looked.emit settings token with
        | (.error e, s) => (.failed e, scanner, s)
        | (.ok (), s) => deliver settings fuel true scanner (s.advance scanner.position)

/-- Delivers what forms no token, unless it is too large, which drops it. -/
def deliverRest (settings : ReadSettings) (scanner : Scanner) (s : Session) :
    Except Error Unit × Scanner × Session :=
  match scanner.takeRemaining with
  | (none, scanner) => (.ok (), scanner, s)
  | (some rest, scanner) =>
    if rest.length > settings.maxLogSize then (.ok (), scanner, s.advance scanner.position)
    else
      match s.emit settings rest with
      | (.error e, s) => (.error e, scanner, s)
      | (.ok (), s) => (.ok (), scanner, s.advance scanner.position)

/-- The reading that a session ends with. The reader takes over the fingerprint that the scanner has
completed. -/
def close (s : Session) (scanner : Scanner) (outcome : Except Error ReadOutcome) : Reading :=
  { outcome, reader := { s.reader with fingerprint := scanner.source.fingerprint }, sink := s.sink }

end Session

namespace Reader

/-- The bytes from index `offset` on of what was opened. Reading a directory fails, unless there is
nothing to read. -/
def source (settings : ReadSettings) (r : Reader) : FileSystem.Opened → Source
  | .file content => .ofContent content r.offset r.fingerprint settings.fingerprintSize
  | .directory =>
    { script := if r.offset < FileSystem.directorySize then [.failed .isDirectory] else []
      position := r.offset
      fingerprint := r.fingerprint
      limit := settings.fingerprintSize }

/-- The reader of a file that has become shorter than the offset: the file is read as a new one. -/
def restart (settings : ReadSettings) (r : Reader) (opened : FileSystem.Opened) :
    Except IoError Unit × Reader :=
  let r := { r with offset := 0, lastSeenSize := 0 }
  match opened.fingerprint settings.fingerprintSize with
  | .error cause => (.error cause, r)
  | .ok fingerprint =>
    let header := if settings.header.isSome then .reading .empty else r.header
    (.ok (), { r with fingerprint, header })

def readOpened (settings : ReadSettings) (r : Reader) (sink : Sink) (opened : FileSystem.Opened)
    (flush : Bool) : Reading :=
  let size := opened.size
  if size = r.offset ∧ size = r.lastSeenSize then
    { outcome := .ok ⟨0, true⟩, reader := r, sink }
  else
    let quiet := size == r.lastSeenSize
    let r := { r with lastSeenSize := size }
    let scanner :=
      Scanner.new settings.framing settings.maxLogSize (r.source settings opened) r.offset
    let session : Session := { reader := r, decoder := .new settings.encoding, sink }
    match session.deliver settings (size - r.offset + 2) false scanner with
    | (.stopped, scanner, s) => s.close scanner (.ok ⟨s.emitted, false⟩)
    | (.failed e, scanner, s) => s.close scanner (.error e)
    | (.exhausted framed, scanner, s) =>
      if flush || (!framed && quiet) then
        match s.deliverRest settings scanner with
        | (.error e, scanner, s) => s.close scanner (.error e)
        | (.ok (), scanner, s) => s.close scanner (.ok ⟨s.emitted, s.reader.offset == size⟩)
      else s.close scanner (.ok ⟨s.emitted, s.reader.offset == size⟩)

/-- Reads the file from the offset on. If `flush` is set, what forms no entry at its end is delivered
too. -/
def read (settings : ReadSettings) (fs : FileSystem) (r : Reader) (sink : Sink) (flush : Bool) :
    Reading :=
  match fs.openPath r.path with
  | .error .notFound => { outcome := .error (.fileNotFound r.path), reader := r, sink }
  | .error cause => { outcome := .error (.io cause), reader := r, sink }
  | .ok opened =>
    if opened.size < r.offset then
      match r.restart settings opened with
      | (.error cause, r) => { outcome := .error (.io cause), reader := r, sink }
      | (.ok (), r) => r.readOpened settings sink opened flush
    else r.readOpened settings sink opened flush

def readToEnd (settings : ReadSettings) (fs : FileSystem) (r : Reader) (sink : Sink) : Reading :=
  r.read settings fs sink settings.deleteAfterRead

/-- The last reading of a reader that is given up. It delivers what is left, if the file at the path
is still the same. -/
def retire (settings : ReadSettings) (fs : FileSystem) (r : Reader) (sink : Sink) : Reading :=
  match fs.openPath r.path with
  | .error .notFound => { outcome := .ok ⟨0, false⟩, reader := r, sink }
  | .error cause => { outcome := .error (.io cause), reader := r, sink }
  | .ok opened =>
    match opened.fingerprint settings.fingerprintSize with
    | .error cause => { outcome := .error (.io cause), reader := r, sink }
    | .ok current =>
      if current.matchesWith r.fingerprint then r.read settings fs sink true
      else { outcome := .ok ⟨0, false⟩, reader := r, sink }

end Reader

end LogFollow
