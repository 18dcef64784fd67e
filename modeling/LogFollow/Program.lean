import LogFollow.Checkpoint.File
import LogFollow.CommandLine.Arguments
import LogFollow.Event.Record
import LogFollow.Follower
import LogFollow.LogFilter

/-!
# The program

The program reads its arguments and its configuration, opens its store, and then follows files until
it is stopped. What is wrong before it starts to follow files ends it.
-/

namespace LogFollow

inductive Exit
  | success
  | failure
  | misuse
  | breakdown
deriving DecidableEq, Repr

/-- The number that the system gets at the end. -/
def Exit.code : Exit → Nat
  | success => 0
  | failure => 1
  | misuse => 2
  | breakdown => 101

namespace Program

def name : String := "logtail"

def version : String := "0.1.0"

/-- The variable of the environment that holds the log filter. -/
def filterVariable : String := "RUST_LOG"

def usage : List String :=
  s!"Usage: {name} [OPTIONS] [INCLUDES]..." :: "" :: Arguments.grammar.usage

/-- How the program ends before it follows files. -/
structure Ending where
  exit : Exit
  output : List String := []
  complaint : Option String := none
deriving DecidableEq, Repr

/-- The ending that a command line leads to which gives no arguments. -/
def endingOf : CommandLine.Detour → Ending
  | .help => { exit := .success, output := usage }
  | .version => { exit := .success, output := [s!"{name} {version}"] }
  | .misuse cause => { exit := .misuse, complaint := some cause.message }

def failed (e : Error) : Ending := { exit := .failure, complaint := some e.message }

/-- The ending that a text leads to which is no log filter. -/
def endingOfFilter : LogFilter.Fault → Ending
  | .malformed => { exit := .failure, complaint := some "invalid filter directive" }
  | .splitCharacter => { exit := .breakdown, complaint := some "a part of a filter splits a character" }

/-- The program as it is about to make its first poll. -/
structure Start where
  world : World
  offsetsPath : String

def start (words : List String) (environment : String → Option String) (fs : FileSystem) :
    Except Ending Start := do
  let arguments ← (Arguments.read words environment).mapError endingOf
  (LogFilter.check ((environment filterVariable).getD "")).mapError endingOfFilter
  let config ← (arguments.config fs).mapError fun fault =>
    { exit := .misuse, complaint := some fault.message }
  let settings ← config.build.mapError failed
  let store ← (CheckpointStore.openFile fs arguments.offsetsPath).mapError failed
  let follower ← ((Follower.new settings store).load fs).mapError failed
  pure { world := { follower, fs, sink := .healthy }, offsetsPath := arguments.offsetsPath }

/-- The record that an event is passed on as. -/
def record (now : Timestamp) (e : Event) : EventRecord :=
  { timestamp := now, severity := none, body := e.body, attributes := e.attributes }

def outputLine (now : Timestamp) (e : Event) : String := (record now e).render

end Program

namespace World

/-- Makes polls until some number of events have been delivered, but at most as many as the fuel
says. -/
def pollUntil (w : World) (events : Nat) : (fuel : Nat) → World
  | 0 => w
  | fuel + 1 =>
    let next := w.poll.2
    if events ≤ next.sink.accepted.length then next else next.pollUntil events fuel

/-- Stops following files: stores how far the readers have come. -/
def stop (w : World) : World := { w with follower := w.follower.persist }

end World

end LogFollow
