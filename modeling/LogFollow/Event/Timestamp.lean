import LogFollow.Json.Reads
import LogFollow.Text.Blank

/-!
# Timestamps

A moment in time, as a date and a time of day without offset. It is read from a date and a time with
an offset, in a form that leaves room for blanks and for numbers without leading zeros, and written
with as many digits behind the point as it needs: none, three, six or nine.
-/

namespace LogFollow

structure Date where
  year : Int
  month : Nat
  day : Nat
deriving DecidableEq, Repr

namespace Date

def isLeapYear (year : Int) : Bool := year % 4 = 0 && (year % 100 ≠ 0 || year % 400 = 0)

def daysOfMonth (year : Int) (month : Nat) : Nat :=
  if month = 2 then if isLeapYear year then 29 else 28
  else if month ∈ [4, 6, 9, 11] then 30
  else 31

/-- The years that have a calendar. -/
def leastYear : Int := -262143

/-- The last year that has a calendar. -/
def greatestYear : Int := 262142

def isValid (d : Date) : Bool :=
  leastYear ≤ d.year && d.year ≤ greatestYear && 1 ≤ d.month && d.month ≤ 12 && 1 ≤ d.day &&
    d.day ≤ daysOfMonth d.year d.month

def next (d : Date) : Date :=
  if d.day < daysOfMonth d.year d.month then { d with day := d.day + 1 }
  else if d.month < 12 then { d with month := d.month + 1, day := 1 }
  else ⟨d.year + 1, 1, 1⟩

def previous (d : Date) : Date :=
  if 1 < d.day then { d with day := d.day - 1 }
  else if 1 < d.month then
    { d with month := d.month - 1, day := daysOfMonth d.year (d.month - 1) }
  else ⟨d.year - 1, 12, 31⟩

/-- The day that comes some days after the first of January 1970. Years are counted from March on, so
that a leap day is the last day of its year. -/
def ofDays (days : Int) : Date :=
  let shifted := days + 719468
  let era := shifted.fdiv 146097
  let dayOfEra := (shifted - era * 146097).toNat
  let yearOfEra := (dayOfEra - dayOfEra / 1460 + dayOfEra / 36524 - dayOfEra / 146096) / 365
  let dayOfYear := dayOfEra - (365 * yearOfEra + yearOfEra / 4 - yearOfEra / 100)
  let fromMarch := (5 * dayOfYear + 2) / 153
  let month := if fromMarch < 10 then fromMarch + 3 else fromMarch - 9
  let year := (yearOfEra : Int) + era * 400
  { year := if month ≤ 2 then year + 1 else year
    month
    day := dayOfYear - (153 * fromMarch + 2) / 5 + 1 }

end Date

/-- A moment in time. The nanoseconds of a leap second are counted on from a thousand million. -/
structure Timestamp where
  date : Date
  second : Nat
  nanosecond : Nat
deriving DecidableEq, Repr

inductive TimestampFault
  | outOfRange
  | impossible
  | invalid
  | tooShort
  | tooLong
deriving DecidableEq, Repr

def TimestampFault.message : TimestampFault → String
  | outOfRange => "input is out of range"
  | impossible => "no possible date and time matching input"
  | invalid => "input contains invalid characters"
  | tooShort => "premature end of input"
  | tooLong => "trailing input"

namespace Timestamp

/-- A reader takes a part of a timestamp from the front of the text. -/
abbrev Reads (α : Type) := List Char → Except TimestampFault (α × List Char)

/-- The greatest number that can be read. -/
def maxNumber : Nat := 9223372036854775807

/-- The digits at the front of the text, at most as many as `width` says, if it does. -/
def leadingDigits (width : Option Nat) (text : List Char) : List Char :=
  let digits := text.takeWhile Json.isDigit
  match width with
  | some w => digits.take w
  | none => digits

def number (width : Option Nat) : Reads Nat := fun text =>
  let digits := leadingDigits width text
  if text.isEmpty then .error .tooShort
  else if digits.isEmpty then .error .invalid
  else
    let n := digits.foldl (fun n c => n * 10 + Json.digitValue c) 0
    if n > maxNumber then .error .outOfRange else .ok (n, text.drop digits.length)

def skipBlanks (text : List Char) : List Char := text.dropWhile Text.isBlank

/-- Reads a number of two digits that lies in a range. -/
def twoDigits (least greatest : Nat) : Reads Nat := fun text => do
  let (n, rest) ← number (some 2) (skipBlanks text)
  if least ≤ n ∧ n ≤ greatest then pure (n, rest) else throw .outOfRange

/-- The greatest year that can be told from others. -/
def maxYear : Int := 2147483647

/-- Reads a year: four digits, or any number of them behind a sign. -/
def year : Reads Int := fun text => do
  let (y, rest) ← match skipBlanks text with
    | '-' :: rest => do
      let (n, rest) ← number none rest
      pure (-(n : Int), rest)
    | '+' :: rest => do
      let (n, rest) ← number none rest
      pure ((n : Int), rest)
    | text => do
      let (n, rest) ← number (some 4) text
      pure ((n : Int), rest)
  if -maxYear - 1 ≤ y ∧ y ≤ maxYear then pure (y, rest) else throw .outOfRange

def mark (wanted : Char) (text : List Char) : Except TimestampFault (List Char) :=
  match skipBlanks text with
  | [] => .error .tooShort
  | c :: rest => if c = wanted then .ok rest else .error .invalid

/-- Reads the digits behind the point of a second; those after the ninth do not matter. -/
def fraction : Reads Nat := fun text =>
  match text with
  | '.' :: rest => do
    let (n, after) ← number (some 9) rest
    let digits := rest.length - after.length
    pure (n * Nat.pow 10 (9 - digits), after.dropWhile Json.isDigit)
  | _ => .ok (0, text)

/-- Reads two digits, neither more nor fewer; the first one is at most `most`. -/
def bothDigits (most : Char) : Reads Nat := fun text =>
  if Json.byteSize (text.take 2) < 2 then .error .tooShort
  else
    match text with
    | a :: b :: rest =>
      if Json.isDigit a ∧ Json.isDigit b then
        if a ≤ most then .ok (Json.digitValue a * 10 + Json.digitValue b, rest)
        else .error .outOfRange
      else .error .invalid
    | _ => .error .invalid

/-- Reads hours and minutes of an offset behind its sign. -/
def hoursAndMinutes : Reads Nat := fun text => do
  let (hours, rest) ← bothDigits '9' text
  let (minutes, rest) ← bothDigits '5' (rest.dropWhile fun c => c == ':' || Text.isBlank c)
  pure (hours * 3600 + minutes * 60, rest)

def offset : Reads Int := fun text =>
  match text with
  | 'Z' :: rest | 'z' :: rest => .ok (0, rest)
  | '+' :: rest => (hoursAndMinutes rest).map fun (n, rest) => ((n : Int), rest)
  | '-' :: rest | '\u2212' :: rest => (hoursAndMinutes rest).map fun (n, rest) => (-(n : Int), rest)
  | [] => .error .tooShort
  | _ :: _ =>
    if Text.toLowerAscii (String.ofList (text.take 3)) = "utc" then .ok (0, text.drop 3)
    else .error .invalid

def separator (text : List Char) : Except TimestampFault (List Char) :=
  match text with
  | [] => .error .tooShort
  | c :: rest => if c = 't' ∨ c = 'T' ∨ c = ' ' then .ok rest else .error .invalid

def daySeconds : Nat := 86400

/-- Moves a moment by less than a day. -/
def shift (t : Timestamp) (seconds : Int) : Timestamp :=
  let s := (t.second : Int) + seconds
  if s < 0 then { t with date := t.date.previous, second := (s + daySeconds).toNat }
  else if s < daySeconds then { t with second := s.toNat }
  else { t with date := t.date.next, second := (s - daySeconds).toNat }

/-- The moment that comes some nanoseconds after the beginning of 1970. -/
def ofNanoseconds (n : Int) : Timestamp :=
  let second := n.fdiv 1000000000
  let day := second.fdiv daySeconds
  { date := .ofDays day
    second := (second - day * daySeconds).toNat
    nanosecond := (n - second * 1000000000).toNat }

/-- The numbers in the text of a timestamp. -/
structure Parts where
  date : Date
  hour : Nat
  minute : Nat
  second : Nat
  nanosecond : Nat
  /-- The offset in seconds. -/
  offset : Int

def readParts (text : String) : Except TimestampFault Parts := do
  let (year, rest) ← year text.toList
  let (month, rest) ← twoDigits 1 12 (← mark '-' rest)
  let (day, rest) ← twoDigits 1 31 (← mark '-' rest)
  let (hour, rest) ← twoDigits 0 23 (← separator rest)
  let (minute, rest) ← twoDigits 0 59 (← mark ':' rest)
  let (second, rest) ← twoDigits 0 60 (← mark ':' rest)
  let (nanosecond, rest) ← fraction rest
  let (offset, rest) ← offset (skipBlanks rest)
  if !(skipBlanks rest).isEmpty then throw .tooLong
  pure { date := ⟨year, month, day⟩, hour, minute, second, nanosecond, offset }

/-- The date and the time of day that the parts name, without their offset. -/
def Parts.clock (p : Parts) : Timestamp :=
  let minutes := p.hour * 60 + p.minute
  if p.second = 60 then ⟨p.date, minutes * 60 + 59, p.nanosecond + 1000000000⟩
  else ⟨p.date, minutes * 60 + p.second, p.nanosecond⟩

def Parts.moment (p : Parts) : Except TimestampFault Timestamp := do
  if !p.date.isValid then throw .outOfRange
  if daySeconds ≤ p.offset.natAbs then throw .outOfRange
  let t := p.clock.shift (-p.offset)
  if t.date.isValid then pure t else throw .impossible

def parse (text : String) : Except TimestampFault Timestamp := do
  (← readParts text).moment

/-- A number with leading zeros. -/
def padded (width n : Nat) : List Char :=
  let digits := Nat.toDigits 10 n
  List.replicate (width - digits.length) '0' ++ digits

/-- A year. One that is not of four digits has a sign. -/
def renderYear (y : Int) : List Char :=
  if 0 ≤ y ∧ y ≤ 9999 then padded 4 y.toNat
  else (if y < 0 then '-' else '+') :: padded 4 y.natAbs

def renderFraction (nanosecond : Nat) : List Char :=
  if nanosecond = 0 then []
  else if nanosecond % 1000000 = 0 then '.' :: padded 3 (nanosecond / 1000000)
  else if nanosecond % 1000 = 0 then '.' :: padded 6 (nanosecond / 1000)
  else '.' :: padded 9 nanosecond

/-- The text of a timestamp. A leap second is the sixtieth of its minute. -/
def render (t : Timestamp) : String :=
  let leap := 1000000000 ≤ t.nanosecond
  String.ofList <|
    renderYear t.date.year ++ '-' :: padded 2 t.date.month ++ '-' :: padded 2 t.date.day ++ 'T' ::
      padded 2 (t.second / 3600) ++ ':' :: padded 2 (t.second / 60 % 60) ++ ':' ::
      padded 2 (t.second % 60 + (if leap then 1 else 0)) ++
      renderFraction (if leap then t.nanosecond - 1000000000 else t.nanosecond) ++ ['Z']

def read : Json.Reads Timestamp := fun text => do
  let (s, rest) ← Json.readString "an RFC 3339 formatted date and time string" text
  match parse s with
  | .ok t => pure (t, rest)
  | .error fault => throw (.unfit fault.message)

end Timestamp

end LogFollow
