import LogFollow.Json.Reads

/-!
# Reading JSON lists, maps and records

A record is written as an object, which names its fields, or as an array, which lists them in order.
A field that is missing keeps its default, unless it is required.
-/

namespace LogFollow.Json

/-! ## Lists -/

/-- Reads the rest of the elements of a list up to its bracket; `first` tells that none was read.
The fuel bounds the number of elements. -/
def readElements {α : Type} (read : Reads α) : (fuel : Nat) → (first : Bool) → Reads (List α)
  | 0, _, _ => .error .ended
  | fuel + 1, first, text =>
    match skipBlanks text with
    | [] => .error .ended
    | ']' :: rest => .ok ([], rest)
    | c :: rest =>
      let element := fun text => do
        let (a, rest) ← read text
        let (as, rest) ← readElements read fuel false rest
        pure (a :: as, rest)
      if first then element (c :: rest)
      else if c = ',' then
        match skipBlanks rest with
        | ']' :: _ => .error .malformed
        | text => element text
      else .error .malformed

def list {α : Type} (read : Reads α) : Reads (List α) := fun text =>
  match skipBlanks text with
  | [] => .error .ended
  | '[' :: rest => readElements read (rest.length + 1) true rest
  | text => wrongKind "a sequence" text

/-! ## Objects -/

/-- Reads the key of the next member of an object, and the text behind it; nothing at the brace that
closes the object. `first` tells that no member was read. -/
def readKey (first : Bool) : Reads (Option String) := fun text =>
  let key := fun text =>
    match text with
    | '"' :: rest => do
      let (s, rest) ← readStringTail rest
      pure (some s, rest)
    | [] => .error .ended
    | _ => .error .malformed
  match skipBlanks text with
  | [] => .error .ended
  | '\x7d' :: rest => .ok (none, rest)
  | c :: rest =>
    if first then key (c :: rest)
    else if c = ',' then key (skipBlanks rest)
    else .error .malformed

def readColon (text : List Char) : Except Fault (List Char) := expect ':' (skipBlanks text)

/-- Reads the rest of the members of a map up to its brace. The fuel bounds their number. -/
def readMembers {α : Type} (read : Reads α) :
    (fuel : Nat) → (first : Bool) → Reads (List (String × α))
  | 0, _, _ => .error .ended
  | fuel + 1, first, text => do
    match ← readKey first text with
    | (none, rest) => pure ([], rest)
    | (some key, rest) =>
      let (a, rest) ← read (← readColon rest)
      let (members, rest) ← readMembers read fuel false rest
      pure ((key, a) :: members, rest)

/-- Reads a map; its members are given in the order of the text. -/
def map {α : Type} (read : Reads α) : Reads (List (String × α)) := fun text =>
  match skipBlanks text with
  | [] => .error .ended
  | '\x7b' :: rest => readMembers read (rest.length + 1) true rest
  | text => wrongKind "a map" text

/-! ## Choices -/

def alternatives (names : List String) : String :=
  match names with
  | [] => "there are no variants"
  | [a] => s!"expected `{a}`"
  | [a, b] => s!"expected `{a}` or `{b}`"
  | _ => "expected one of " ++ ", ".intercalate (names.map fun name => s!"`{name}`")

def named {α : Type} (choices : List (String × α)) (name : String) : Except Fault α :=
  match choices.lookup name with
  | some a => .ok a
  | none => .error (.unfit s!"unknown variant `{name}`, {alternatives (choices.map (·.1))}")

/-- Reads one of several values by its name, which stands alone or is the key of an object with the
value `null`. -/
def choice {α : Type} (choices : List (String × α)) : Reads α := fun text =>
  match skipBlanks text with
  | [] => .error .ended
  | '"' :: rest => do
    let (name, rest) ← readStringTail rest
    pure (← named choices name, rest)
  | '\x7b' :: rest => do
    let (name, rest) ← readString "variant identifier" rest
    let a ← named choices name
    let (_, rest) ← unit (← readColon rest)
    pure (a, ← expect '\x7d' (skipBlanks rest))
  | _ => .error .malformed

/-! ## Values of no interest -/

/-- Passes over the rest of a string. The fuel bounds the number of characters. -/
def skipCharacters : (fuel : Nat) → List Char → Except Fault (List Char)
  | 0, _ => .error .ended
  | fuel + 1, text =>
    match text with
    | [] => .error .ended
    | '"' :: rest => .ok rest
    | ['\\'] => .error .ended
    | '\\' :: 'u' :: rest => do
      let (_, rest) ← readHex rest
      skipCharacters fuel rest
    | '\\' :: c :: rest => if (escaped? c).isSome then skipCharacters fuel rest else .error .malformed
    | c :: rest => if c.toNat < 0x20 then .error .malformed else skipCharacters fuel rest

def skipDigits (text : List Char) : Except Fault (List Char) :=
  match text with
  | [] => .error .malformed
  | c :: _ => if isDigit c then .ok (text.dropWhile isDigit) else .error .malformed

def skipExponent (text : List Char) : Except Fault (List Char) :=
  match text with
  | '+' :: rest | '-' :: rest => skipDigits rest
  | _ => skipDigits text

def skipNumberTail (text : List Char) : Except Fault (List Char) :=
  match text with
  | 'e' :: rest | 'E' :: rest => skipExponent rest
  | _ => .ok text

def skipNumber (text : List Char) : Except Fault (List Char) := do
  let text := match text with
    | '-' :: rest => rest
    | _ => text
  let text ← match text with
    | '0' :: c :: rest => if isDigit c then throw .malformed else pure (c :: rest)
    | _ => skipDigits text
  match text with
  | '.' :: rest => skipNumberTail (← skipDigits rest)
  | _ => skipNumberTail text

def skipScalar (text : List Char) : Except Fault (List Char) :=
  match text with
  | 'n' :: rest => readName "ull".toList rest
  | 't' :: rest => readName "rue".toList rest
  | 'f' :: rest => readName "alse".toList rest
  | '"' :: rest => skipCharacters (rest.length + 1) rest
  | [] => .error .ended
  | c :: _ => if isDigit c ∨ c = '-' then skipNumber text else .error .malformed

def skipKey (text : List Char) : Except Fault (List Char) :=
  match skipBlanks text with
  | '"' :: rest => do readColon (← skipCharacters (rest.length + 1) rest)
  | [] => .error .ended
  | _ => .error .malformed

/-- Passes over a value of any kind inside lists and objects that are open; `brackets` holds what
closes them, the innermost first. A value is due if `due` is set, and the end of one if it is not. The
fuel bounds the number of values and ends. -/
def skipWithin : (fuel : Nat) → (brackets : List Char) → (due : Bool) →
    List Char → Except Fault (List Char)
  | 0, _, _, _ => .error .ended
  | fuel + 1, brackets, true, text =>
    match skipBlanks text with
    | '[' :: rest =>
      match skipBlanks rest with
      | ']' :: rest => skipWithin fuel brackets false rest
      | rest => skipWithin fuel (']' :: brackets) true rest
    | '\x7b' :: rest =>
      match skipBlanks rest with
      | '\x7d' :: rest => skipWithin fuel brackets false rest
      | rest => do skipWithin fuel ('\x7d' :: brackets) true (← skipKey rest)
    | text => do skipWithin fuel brackets false (← skipScalar text)
  | fuel + 1, brackets, false, text =>
    match brackets with
    | [] => .ok text
    | bracket :: outer =>
      match skipBlanks text with
      | [] => .error .ended
      | ',' :: rest => do
        if bracket = ']' then skipWithin fuel brackets true rest
        else skipWithin fuel brackets true (← skipKey rest)
      | c :: rest => if c = bracket then skipWithin fuel outer false rest else .error .malformed

/-- Reads a value of any kind, and forgets it. -/
def ignored : Reads Unit := fun text =>
  (skipWithin (2 * text.length + 2) [] true text).map ((), ·)

/-! ## Records -/

/-- A field of a record of type `σ`, with the reader that sets it. -/
structure Field (σ : Type) where
  name : String
  required : Bool
  read : σ → Reads σ

/-- A field that may be missing. -/
def Field.optional {σ α : Type} (name : String) (read : Reads α) (set : σ → α → σ) : Field σ :=
  { name, required := false, read := fun record text => do
      let (a, rest) ← read text
      pure (set record a, rest) }

/-- A field that must be there. -/
def Field.needed {σ α : Type} (name : String) (read : Reads α) (set : σ → α → σ) : Field σ :=
  { Field.optional name read set with required := true }

structure Shape (σ : Type) where
  /-- What the record is called in messages. -/
  name : String
  fields : List (Field σ)
  /-- Whether there may be fields that are not named here. -/
  extensible : Bool

namespace Shape

def missing (name : String) : Fault := .unfit s!"missing field `{name}`"

/-- The fault of a record that is an array without a required field; `index` is that of the field. -/
def tooShort {σ : Type} (shape : Shape σ) (index : Nat) : Fault :=
  .unfit s!"invalid length {index}, expected {shape.name} with {shape.fields.length} elements"

/-- Reads the members of a record up to its brace; `seen` holds the names that were read, and `first`
tells that no member was. The fuel bounds the number of members. -/
def readObject {σ : Type} (shape : Shape σ) :
    (fuel : Nat) → (first : Bool) → (seen : List String) → σ → Reads σ
  | 0, _, _, _, _ => .error .ended
  | fuel + 1, first, seen, record, text => do
    match ← readKey first text with
    | (none, rest) =>
      match shape.fields.find? fun field => field.required && !seen.contains field.name with
      | some field => throw (missing field.name)
      | none => pure (record, rest)
    | (some key, rest) =>
      match shape.fields.find? (·.name == key) with
      | some field =>
        if seen.contains key then throw (.unfit s!"duplicate field `{key}`")
        let (record, rest) ← field.read record (← readColon rest)
        readObject shape fuel false (key :: seen) record rest
      | none =>
        if !shape.extensible then
          throw (.unfit s!"unknown field `{key}`, {alternatives (shape.fields.map (·.name))}")
        let (_, rest) ← ignored (← readColon rest)
        readObject shape fuel false seen record rest

/-- Reads the elements of a record that is an array; `fields` are those still to be read, and `index`
is that of the first of them. -/
def readArray {σ : Type} (shape : Shape σ) (index : Nat) : List (Field σ) → σ → Reads σ
  | [], record, text => do pure (record, ← expect ']' (skipBlanks text))
  | field :: fields, record, text =>
    match skipBlanks text with
    | [] => .error .ended
    | ']' :: rest =>
      match (field :: fields).findIdx? (·.required) with
      | some i => .error (tooShort shape (index + i))
      | none => .ok (record, rest)
    | c :: rest =>
      let element := fun text => do
        let (record, rest) ← field.read record text
        readArray shape (index + 1) fields record rest
      if index = 0 then element (c :: rest)
      else if c = ',' then
        match skipBlanks rest with
        | ']' :: _ => .error .malformed
        | text => element text
      else .error .malformed

/-- Reads a record; `start` holds the defaults of its fields. -/
def read {σ : Type} (shape : Shape σ) (start : σ) : Reads σ := fun text =>
  match skipBlanks text with
  | [] => .error .ended
  | '\x7b' :: rest => readObject shape (rest.length + 1) true [] start rest
  | '[' :: rest => readArray shape 0 shape.fields start rest
  | text => wrongKind shape.name text

end Shape

end LogFollow.Json
