import LogFollow.Text.Blank

/-!
# Durations

A duration is a whole number of nanoseconds. It is written as numbers with units, such as
`1h 30m` or `1.5s`, whose sum it is. A fraction must come out even, in seconds for units of an hour
and more, and in nanoseconds for the smaller ones.
-/

namespace LogFollow

structure Duration where
  nanoseconds : Nat
deriving DecidableEq, Repr

namespace Duration

/-- The nanoseconds of a second. -/
def second : Nat := 1000000000

def ofMilliseconds (n : Nat) : Duration := ⟨n * 1000000⟩

def isZero (d : Duration) : Bool := d.nanoseconds == 0

inductive TimeUnit
  | nanosecond
  | microsecond
  | millisecond
  | second
  | minute
  | hour
  | day
  | week
  | month
  | year
deriving DecidableEq, Repr

namespace TimeUnit

def spellings : List (TimeUnit × List String) :=
  [(nanosecond, ["nanos", "nsec", "ns"]),
   (microsecond, ["usec", "us", "µs"]),
   (millisecond, ["millis", "msec", "ms"]),
   (second, ["seconds", "second", "secs", "sec", "s"]),
   (minute, ["minutes", "minute", "min", "mins", "m"]),
   (hour, ["hours", "hour", "hrs", "hr", "h"]),
   (day, ["days", "day", "d"]),
   (week, ["weeks", "week", "wks", "wk", "w"]),
   (month, ["months", "month", "M"]),
   (year, ["years", "year", "yrs", "yr", "y"])]

/-- The unit with a spelling. -/
def ofText? (text : String) : Option TimeUnit :=
  (spellings.find? (·.2.contains text)).map (·.1)

/-- The seconds of a unit of at least a second. A month is a twelfth of a year of 365.25 days, to the
nearest tenth of a day. -/
def seconds : TimeUnit → Nat
  | second => 1
  | minute => 60
  | hour => 3600
  | day => 86400
  | week => 604800
  | month => 2630016
  | year => 31557600
  | _ => 0

def nanoseconds : TimeUnit → Nat
  | nanosecond => 1
  | microsecond => 1000
  | millisecond => 1000000
  | _ => 0

end TimeUnit

/-- The greatest number that a duration is computed with. -/
def maxWord : Nat := 18446744073709551615

def word? (n : Nat) : Option Nat := if n ≤ maxWord then some n else none

def add? (d : Duration) (seconds nanoseconds : Nat) : Option Duration := do
  let _ ← word? (d.nanoseconds % second + nanoseconds)
  let total := d.nanoseconds + seconds * second + nanoseconds
  let _ ← word? (total / second)
  pure ⟨total⟩

/-- A fraction of a unit, by numerator and denominator. -/
structure Fraction where
  numerator : Nat
  denominator : Nat
deriving DecidableEq, Repr

/-- A product divided by a number that must divide it. -/
def exactPart? (numerator factor denominator : Nat) : Option Nat := do
  let product ← word? (numerator * factor)
  if product % denominator = 0 then some (product / denominator) else none

/-- Adds a number of units, which may have a fraction. -/
def addUnits? (d : Duration) (n : Nat) (fraction : Option Fraction) (u : TimeUnit) :
    Option Duration := do
  let d ← d.add? (← word? (n * u.seconds)) (← word? (n * u.nanoseconds))
  match fraction with
  | none => some d
  | some f =>
    if u = .nanosecond then none
    else if u = .second ∨ u = .minute then
      d.add? 0 (← exactPart? f.numerator (u.seconds * second) f.denominator)
    else if 0 < u.seconds then d.add? (← exactPart? f.numerator u.seconds f.denominator) 0
    else d.add? 0 (← exactPart? f.numerator u.nanoseconds f.denominator)

def isUnitChar (c : Char) : Bool :=
  ('a' ≤ c && c ≤ 'z') || ('A' ≤ c && c ≤ 'Z') || c == 'µ'

def isDigit (c : Char) : Bool := '0' ≤ c && c ≤ '9'

def addDigit? (n : Nat) (c : Char) : Option Nat := word? (n * 10 + (c.toNat - 48))

/-- Reads the fraction of a number behind its point, up to the unit. Blanks do not matter. -/
def readFraction (f : Fraction) : List Char → Option (Fraction × List Char)
  | [] => if f.denominator = 1 then none else some (f, [])
  | c :: rest =>
    if isDigit c then do
      readFraction ⟨← addDigit? f.numerator c, ← word? (f.denominator * 10)⟩ rest
    else if Text.isBlank c then readFraction f rest
    else if isUnitChar c && f.denominator ≠ 1 then some (f, c :: rest)
    else none

/-- Reads the rest of a number, up to the unit. Blanks do not matter. -/
def readNumber (n : Nat) : List Char → Option (Nat × Option Fraction × List Char)
  | [] => some (n, none, [])
  | c :: rest =>
    if isDigit c then do readNumber (← addDigit? n c) rest
    else if Text.isBlank c then readNumber n rest
    else if c = '.' then (readFraction ⟨0, 1⟩ rest).map fun (f, rest) => (n, some f, rest)
    else if isUnitChar c then some (n, none, c :: rest)
    else none

/-- Adds the numbers with units in a text. The fuel bounds how many there are. -/
def readParts : (fuel : Nat) → Duration → List Char → Option Duration
  | 0, _, _ => none
  | fuel + 1, d, text =>
    match text with
    | [] => none
    | c :: rest =>
      if !isDigit c then none
      else do
        let (n, fraction, rest) ← readNumber (c.toNat - 48) rest
        let u ← TimeUnit.ofText? (String.ofList (rest.takeWhile isUnitChar))
        let d ← d.addUnits? n fraction u
        match (rest.dropWhile isUnitChar).dropWhile Text.isBlank with
        | [] => some d
        | rest => readParts fuel d rest

/-- Reads a duration. Zero needs no unit. -/
def parse? (text : String) : Option Duration :=
  if text = "0" then some ⟨0⟩
  else readParts (text.length + 1) ⟨0⟩ (text.toList.dropWhile Text.isBlank)

/-- A number with the name of a unit, unless the number is zero; `plural` is put behind a number of
more than one. -/
def part (n : Nat) (name plural : String) : List String :=
  if n = 0 then [] else if n = 1 then [s!"1{name}"] else [s!"{n}{name}{plural}"]

/-- A duration in units from years down to nanoseconds. -/
def render (d : Duration) : String :=
  let seconds := d.nanoseconds / second
  let nanoseconds := d.nanoseconds % second
  let inYear := seconds % TimeUnit.year.seconds
  let inMonth := inYear % TimeUnit.month.seconds
  let inDay := inMonth % TimeUnit.day.seconds
  let parts :=
    part (seconds / TimeUnit.year.seconds) "year" "s" ++
    part (inYear / TimeUnit.month.seconds) "month" "s" ++
    part (inMonth / TimeUnit.day.seconds) "day" "s" ++
    part (inDay / 3600) "h" "" ++
    part (inDay % 3600 / 60) "m" "" ++
    part (inDay % 60) "s" "" ++
    part (nanoseconds / 1000000) "ms" "" ++
    part (nanoseconds / 1000 % 1000) "us" "" ++
    part (nanoseconds % 1000) "ns" ""
  if parts.isEmpty then "0s" else " ".intercalate parts

end Duration

end LogFollow
