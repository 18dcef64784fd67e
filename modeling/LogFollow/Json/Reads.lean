import LogFollow.Decimal.Shortest
import LogFollow.Text.Quoted

/-!
# Reading JSON

Values are read from JSON text by readers that know what they want. A reader takes its value from the
front of the text, as far as it has to, and gives the text that is left; so the first thing that is
wrong decides which fault is found, be it the text that is no JSON or a value that is not wanted.
-/

namespace LogFollow.Json

inductive Fault
  | malformed
  /-- The text ends inside a value. -/
  | ended
  /-- The value is not one that is wanted. -/
  | unfit (message : String)
deriving DecidableEq, Repr

/-- A reader takes a value from the front of the text, and gives the text that is left. -/
abbrev Reads (α : Type) := List Char → Except Fault (α × List Char)

def isBlank (c : Char) : Bool := c == ' ' || c == '\n' || c == '\t' || c == '\r'

def skipBlanks (text : List Char) : List Char := text.dropWhile isBlank

/-! ## Strings -/

def hexValue? (c : Char) : Option Nat :=
  if '0' ≤ c ∧ c ≤ '9' then some (c.toNat - 48)
  else if 'a' ≤ c ∧ c ≤ 'f' then some (c.toNat - 87)
  else if 'A' ≤ c ∧ c ≤ 'F' then some (c.toNat - 55)
  else none

def byteSize (text : List Char) : Nat := text.foldl (fun n c => n + c.utf8Size) 0

/-- Reads the four hexadecimal digits of an escape. The text has ended if fewer than four bytes are
left. -/
def readHex : Reads Nat := fun text =>
  if byteSize (text.take 4) < 4 then .error .ended
  else
    match text with
    | a :: b :: c :: d :: rest =>
      match hexValue? a, hexValue? b, hexValue? c, hexValue? d with
      | some a, some b, some c, some d => .ok (((a * 16 + b) * 16 + c) * 16 + d, rest)
      | _, _, _, _ => .error .malformed
    | _ => .error .malformed

def expect (wanted : Char) (text : List Char) : Except Fault (List Char) :=
  match text with
  | [] => .error .ended
  | c :: rest => if c = wanted then .ok rest else .error .malformed

/-- Reads the character of an escape with digits. A leading surrogate must be followed by a trailing
one. -/
def readCode : Reads Char := fun text => do
  let (n, text) ← readHex text
  if 0xDC00 ≤ n ∧ n ≤ 0xDFFF then throw .malformed
  if n < 0xD800 ∨ 0xDFFF < n then return (Char.ofNat n, text)
  let text ← expect '\\' text
  let text ← expect 'u' text
  let (m, text) ← readHex text
  if m < 0xDC00 ∨ 0xDFFF < m then throw .malformed
  return (Char.ofNat (0x10000 + (n - 0xD800) * 0x400 + (m - 0xDC00)), text)

def escaped? (c : Char) : Option Char :=
  match c with
  | '"' => some '"'
  | '\\' => some '\\'
  | '/' => some '/'
  | 'b' => some '\x08'
  | 'f' => some '\x0c'
  | 'n' => some '\n'
  | 'r' => some '\r'
  | 't' => some '\t'
  | _ => none

/-- Reads the rest of a string, with its closing quote; `done` holds the characters so far, the last
one first. The fuel bounds the number of characters. -/
def readCharacters (done : List Char) : (fuel : Nat) → Reads String
  | 0, _ => .error .ended
  | fuel + 1, text =>
    match text with
    | [] => .error .ended
    | '"' :: rest => .ok (String.ofList done.reverse, rest)
    | ['\\'] => .error .ended
    | '\\' :: 'u' :: rest => do
      let (c, rest) ← readCode rest
      readCharacters (c :: done) fuel rest
    | '\\' :: c :: rest =>
      match escaped? c with
      | some d => readCharacters (d :: done) fuel rest
      | none => .error .malformed
    | c :: rest =>
      if c.toNat < 0x20 then .error .malformed else readCharacters (c :: done) fuel rest

def readStringTail : Reads String := fun text => readCharacters [] (text.length + 1) text

/-! ## Numbers -/

/-- A number as it is written: a whole number that fits into 64 bits, or a double. -/
inductive Number
  | unsigned (value : Nat)
  /-- A number below zero, by its magnitude. -/
  | negative (magnitude : Nat)
  | float (value : Float)

def maxWord : Nat := 18446744073709551615

/-- The greatest magnitude of a negative number that is kept as a whole number. -/
def signedLimit : Nat := 9223372036854775808

def isDigit (c : Char) : Bool := '0' ≤ c && c ≤ '9'

def digitValue (c : Char) : Nat := c.toNat - 48

def power (n : Nat) : Float := Float.ofScientific 1 false n

/-- Divides by a power of ten, by at most 308 places at once. -/
def divideByPower : (fuel : Nat) → Float → Nat → Float
  | 0, f, _ => f
  | fuel + 1, f, n =>
    if n ≤ 308 then f / power n
    else if f == 0.0 then f
    else divideByPower fuel (f / power 308) (n - 308)

/-- The double `significand * 10 ^ exponent`, unless it is too large. -/
def scaled? (significand : Nat) (exponent : Int) : Option Float :=
  let f := significand.toFloat
  if 0 ≤ exponent then
    if exponent ≤ 308 then
      let g := f * power exponent.toNat
      if g.isInf then none else some g
    else if f == 0.0 then some f
    else none
  else some (divideByPower (exponent.natAbs + 1) f exponent.natAbs)

def signed (negative : Bool) (f : Float) : Number := .float (if negative then -f else f)

/-- Finishes a number that has a fraction, an exponent, or too many digits. -/
def finishFloat (negative : Bool) (significand : Nat) (exponent : Int) : Reads Number := fun text =>
  match scaled? significand exponent with
  | some f => .ok (signed negative f, text)
  | none => .error .malformed

/-- The exponents that are told apart from those without limit. -/
def exponentLimit : Nat := 2147483647

/-- Reads an exponent behind its letter. One without limit makes a number zero or too large. -/
def readExponent (negative : Bool) (significand : Nat) (exponent : Int) : Reads Number := fun text =>
  let (down, text) := match text with
    | '+' :: rest => (false, rest)
    | '-' :: rest => (true, rest)
    | _ => (false, text)
  match text with
  | [] => .error .ended
  | c :: _ =>
    if !isDigit c then .error .malformed
    else
      let digits := text.takeWhile isDigit
      let rest := text.dropWhile isDigit
      let n := digits.foldl (fun n c => n * 10 + digitValue c) 0
      if n > exponentLimit then
        if significand ≠ 0 ∧ !down then .error .malformed else .ok (signed negative 0.0, rest)
      else finishFloat negative significand (if down then exponent - n else exponent + n) rest

def readTail (negative : Bool) (significand : Nat) (exponent : Int) : Reads Number := fun text =>
  match text with
  | 'e' :: rest | 'E' :: rest => readExponent negative significand exponent rest
  | _ => finishFloat negative significand exponent text

/-- Adds digits to a significand as long as it fits into 64 bits, and counts them. -/
def addDigits (significand : Nat) (count : Nat) : List Char → Nat × Nat
  | [] => (significand, count)
  | c :: rest =>
    let next := significand * 10 + digitValue c
    if next > maxWord then (significand, count) else addDigits next (count + 1) rest

/-- Reads the fraction of a number behind its point. Digits that the significand has no room for do
not matter. -/
def readFraction (negative : Bool) (significand : Nat) (exponent : Int) : Reads Number := fun text =>
  let digits := text.takeWhile isDigit
  let rest := text.dropWhile isDigit
  if digits.isEmpty then if rest.isEmpty then .error .ended else .error .malformed
  else
    let (significand, count) := addDigits significand 0 digits
    readTail negative significand (exponent - count) rest

def readNumberTail (negative : Bool) (significand : Nat) : Reads Number := fun text =>
  match text with
  | '.' :: rest => readFraction negative significand 0 rest
  | 'e' :: rest | 'E' :: rest => readExponent negative significand 0 rest
  | _ =>
    if !negative then .ok (.unsigned significand, text)
    else if significand = 0 ∨ signedLimit < significand then
      .ok (signed true significand.toFloat, text)
    else .ok (.negative significand, text)

/-- Reads what follows the digits of a number that does not fit into 64 bits. -/
def readLongTail (negative : Bool) (significand : Nat) (dropped : Nat) : Reads Number := fun text =>
  match text with
  | '.' :: rest => readFraction negative significand dropped rest
  | _ => readTail negative significand dropped text

def readMagnitude (negative : Bool) : Reads Number := fun text =>
  match text with
  | [] => .error .ended
  | c :: rest =>
    if c = '0' then
      match rest with
      | d :: _ => if isDigit d then .error .malformed else readNumberTail negative 0 rest
      | [] => readNumberTail negative 0 rest
    else if isDigit c then
      let digits := text.takeWhile isDigit
      let rest := text.dropWhile isDigit
      let (significand, count) := addDigits 0 0 digits
      if count = digits.length then readNumberTail negative significand rest
      else readLongTail negative significand (digits.length - count) rest
    else .error .malformed

def readNumber : Reads Number := fun text =>
  match text with
  | '-' :: rest => readMagnitude true rest
  | _ => readMagnitude false text

/-! ## Values of the wrong kind -/

def readName : (wanted : List Char) → List Char → Except Fault (List Char)
  | [], text => .ok text
  | c :: wanted, text => do readName wanted (← expect c text)

/-- How a number that cannot be used is written: positionally from `1e-5` to below `1e16`, and without
zeros at the front of the exponent. -/
def numberStyle : Decimal.Style := ⟨-5, 15, 1⟩

def Number.words : Number → String
  | .unsigned value => s!"integer `{value}`"
  | .negative magnitude => s!"integer `-{magnitude}`"
  | .float value => s!"floating point `{Decimal.ofFloat numberStyle value}`"

/-- The words for the value at the front of the text, which is read as far as it takes to know it. -/
def nextWords (text : List Char) : Except Fault String :=
  match text with
  | 'n' :: rest => (readName "ull".toList rest).map fun _ => "null"
  | 't' :: rest => (readName "rue".toList rest).map fun _ => "boolean `true`"
  | 'f' :: rest => (readName "alse".toList rest).map fun _ => "boolean `false`"
  | '"' :: rest => (readStringTail rest).map fun (s, _) => s!"string {Text.Quoted.render s}"
  | '[' :: _ => .ok "sequence"
  | '\x7b' :: _ => .ok "map"
  | c :: _ => if isDigit c ∨ c = '-' then (readNumber text).map (·.1.words) else .error .malformed
  | [] => .error .ended

def wrongKind {α : Type} (wanted : String) : Reads α := fun text => do
  throw (.unfit s!"invalid type: {← nextWords text}, expected {wanted}")

/-! ## Values -/

def readString (wanted : String) : Reads String := fun text =>
  match skipBlanks text with
  | [] => .error .ended
  | '"' :: rest => readStringTail rest
  | text => wrongKind wanted text

def text : Reads String := readString "a string"

def bool : Reads Bool := fun text =>
  match skipBlanks text with
  | [] => .error .ended
  | 't' :: rest => (readName "rue".toList rest).map (true, ·)
  | 'f' :: rest => (readName "alse".toList rest).map (false, ·)
  | text => wrongKind "a boolean" text

def size : Reads Nat := fun text =>
  match skipBlanks text with
  | [] => .error .ended
  | c :: rest =>
    let text := c :: rest
    if c = '-' ∨ isDigit c then do
      match ← readNumber text with
      | (.unsigned value, rest) => pure (value, rest)
      | (.negative magnitude, _) =>
        throw (.unfit s!"invalid value: integer `-{magnitude}`, expected usize")
      | (number, _) => throw (.unfit s!"invalid type: {number.words}, expected usize")
    else wrongKind "usize" text

/-- Reads nothing, written `null`. -/
def unit : Reads Unit := fun text =>
  match skipBlanks text with
  | [] => .error .ended
  | 'n' :: rest => (readName "ull".toList rest).map ((), ·)
  | text => wrongKind "unit" text

def orNull {α : Type} (read : Reads α) : Reads (Option α) := fun text =>
  match skipBlanks text with
  | 'n' :: rest => (readName "ull".toList rest).map (none, ·)
  | text => do
    let (a, rest) ← read text
    pure (some a, rest)

/-- Reads a whole text, which holds one value and blanks. -/
def readAll {α : Type} (read : Reads α) (text : String) : Except Fault α := do
  let (a, rest) ← read text.toList
  if (skipBlanks rest).isEmpty then pure a else throw .malformed

end LogFollow.Json
