import LogFollow.Pattern.Parser
import LogFollow.Text.Blank
import LogFollow.Text.Letter

/-!
# Log filters

A log filter says which messages the program writes about itself. It is a list of directives between
commas; a directive names a target, or a span in brackets with its fields in braces, or both, and then
a level after an equals sign, or it is a level alone. Empty directives do not matter. A directive is
read without the blanks around it, but its parts are cut out of it by their byte indices as if the
blanks were there.
-/

namespace LogFollow.LogFilter

inductive Fault
  | malformed
  /-- A part of a directive would begin or end within a character. -/
  | splitCharacter
deriving DecidableEq, Repr

/-! ## Levels and values -/

/-- Whether a text is a number from 0 to 5: zeros and a digit, perhaps after a plus sign. -/
def isLevelNumber (text : List Char) : Bool :=
  let digits := match text with
    | '+' :: rest => rest
    | text => text
  !digits.isEmpty && digits.all Char.isDigit &&
    ['0', '1', '2', '3', '4', '5'].contains (digits.getLast?.getD '9') &&
    digits.dropLast.all (· == '0')

def levelNames : List String := ["error", "warn", "info", "debug", "trace", "off"]

def isLevel (text : List Char) : Bool :=
  isLevelNumber text || levelNames.contains (Text.toLowerAscii (String.ofList text))

/-- Whether a text is an exponent, or empty. -/
def isExponent (text : List Char) : Bool :=
  match text with
  | [] => true
  | e :: rest =>
    let digits := match rest with
      | '+' :: rest => rest
      | '-' :: rest => rest
      | rest => rest
    (e == 'e' || e == 'E') && !digits.isEmpty && digits.all Char.isDigit

def isDecimal (text : List Char) : Bool :=
  let whole := text.takeWhile Char.isDigit
  match text.dropWhile Char.isDigit with
  | '.' :: rest =>
    !(whole.isEmpty && (rest.takeWhile Char.isDigit).isEmpty) && isExponent (rest.dropWhile Char.isDigit)
  | rest => !whole.isEmpty && isExponent rest

/-- Whether a text is a number: a decimal number, infinity or no number at all, perhaps with a sign. -/
def isNumber (text : List Char) : Bool :=
  let magnitude := match text with
    | '+' :: rest => rest
    | '-' :: rest => rest
    | text => text
  isDecimal magnitude
    || ["inf", "infinity", "nan"].contains (Text.toLowerAscii (String.ofList magnitude))

/-- Whether a text may be the value of a field: a number, or a pattern for text that does not ask for
word boundaries of scalars. -/
def isValue (text : List Char) : Bool :=
  isNumber text ||
    match Pattern.parse { scalarsOnly := true } (String.ofList text) with
    | some parsed => !parsed.expr.looks.any Pattern.Look.isScalarEdge
    | none => false

/-- Whether a text may be a field: a name, perhaps with a value after an equals sign. What follows a
second equals sign does not matter. -/
def isField (text : List Char) : Bool :=
  !text.isEmpty &&
    match text.splitOn '=' with
    | _ :: value :: _ => isValue value
    | _ => true

/-! ## Directives -/

/-- The text without its first `n` bytes. -/
def dropBytes? : (n : Nat) → List Char → Option (List Char)
  | 0, text => some text
  | _ + 1, [] => none
  | n + 1, c :: rest => if c.utf8Size ≤ n + 1 then dropBytes? (n + 1 - c.utf8Size) rest else none
termination_by _ text => text.length

def takeBytes? : (n : Nat) → List Char → Option (List Char)
  | 0, _ => some []
  | _ + 1, [] => none
  | n + 1, c :: rest =>
    if c.utf8Size ≤ n + 1 then (takeBytes? (n + 1 - c.utf8Size) rest).map (c :: ·) else none
termination_by _ text => text.length

/-- The part of a text from one byte index up to another. -/
def part (text : List Char) (start stop : Nat) : Except Fault (List Char) :=
  match (dropBytes? start text).bind (takeBytes? (stop - start)) with
  | some part => .ok part
  | none => .error .splitCharacter

def partFrom (text : List Char) (start : Nat) : Except Fault (List Char) :=
  match dropBytes? start text with
  | some part => .ok part
  | none => .error .splitCharacter

/-- Where the reader of a directive is; `since` is the index at which the current part began. -/
inductive Place
  | start
  | name
  | span (since : Nat)
  | field (since : Nat)
  | fieldsEnd
  | spanEnd
  | level (since : Nat)
deriving DecidableEq, Repr

/-- Whether a character may begin a directive that does not begin with a span. -/
def beginsName (c : Char) : Bool := c == '-' || c == ':' || c == '_' || Text.Letter.isAlphanumeric c

/-- Goes on by the character `c` at byte index `i` of a directive. -/
def step (directive : List Char) (place : Place) (i : Nat) (c : Char) : Except Fault Place :=
  match place, c with
  | .start, '[' => .ok (.span (i + 1))
  | .start, c => if beginsName c then .ok .name else .error .malformed
  | .name, '=' => (part directive 0 i).map fun _ => .level (i + 1)
  | .name, '[' => (part directive 0 i).map fun _ => .span (i + 1)
  | .name, _ => .ok .name
  | .span since, ']' => (part directive since i).map fun _ => .spanEnd
  | .span since, '{' => (part directive since i).map fun _ => .field (i + 1)
  | .span since, _ => .ok (.span since)
  | .field since, '}' => do
    if isField (← part directive since i) then .ok .fieldsEnd else .error .malformed
  | .field since, _ => .ok (.field since)
  | .fieldsEnd, ']' => .ok .spanEnd
  | .spanEnd, '=' => .ok (.level (i + 1))
  | .level since, _ => .ok (.level since)
  | .fieldsEnd, _ | .spanEnd, _ => .error .malformed

/-- Reads the rest of a directive from byte index `i` on. -/
def steps (directive : List Char) (place : Place) (i : Nat) : List Char → Except Fault Place
  | [] => .ok place
  | c :: rest => do steps directive (← step directive place i c) (i + c.utf8Size) rest

/-- Reads a directive, which is not empty. -/
def read (directive : List Char) : Except Fault Unit := do
  let trimmed := (Text.trim (String.ofList directive)).toList
  match ← steps directive .start 0 trimmed with
  | .name | .spanEnd => .ok ()
  | .level since =>
    let text ← partFrom directive since
    if text.isEmpty || isLevel text then .ok () else .error .malformed
  | _ => .error .malformed

def check (text : String) : Except Fault Unit :=
  ((text.toList.splitOn ',').filter (!·.isEmpty)).forM read

end LogFollow.LogFilter
