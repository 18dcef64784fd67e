import LogFollow.Json.Record
import LogFollow.Json.Write

/-!
# Severities

How grave an event is. Severities are ordered from the least grave one on.
-/

namespace LogFollow

inductive Severity
  | trace
  | debug
  | info
  | warning
  | error
  | fatal
deriving DecidableEq, Repr

namespace Severity

/-- All severities, the least grave first. -/
def all : List Severity := [trace, debug, info, warning, error, fatal]

def name : Severity → String
  | trace => "trace"
  | debug => "debug"
  | info => "info"
  | warning => "warning"
  | error => "error"
  | fatal => "fatal"

/-- The place of a severity in the order. -/
def rank : Severity → Nat
  | trace => 0
  | debug => 1
  | info => 2
  | warning => 3
  | error => 4
  | fatal => 5

instance : LE Severity := ⟨fun a b => a.rank ≤ b.rank⟩

instance (a b : Severity) : Decidable (a ≤ b) := inferInstanceAs (Decidable (a.rank ≤ b.rank))

def read : Json.Reads Severity := Json.choice (all.map fun s => (s.name, s))

def write (s : Severity) : List Char := Json.writeString s.name

end Severity

end LogFollow
