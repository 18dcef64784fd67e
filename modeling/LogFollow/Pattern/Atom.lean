import LogFollow.Pattern.Flags
import LogFollow.Pattern.NormalForm

/-!
# Atoms of patterns

An atom is a character, an escape or a dot. Some escapes stand for a character or a class, others for
an assertion about a place. What an atom matches depends on the flags: a class stands for scalars or
for bytes, and a character may stand for all that differ from it in case only.
-/

namespace LogFollow.Pattern

namespace Parser

def isEscapable (c : Char) : Bool :=
  c.toNat < 0x80 && !c.isAlphanum && c != '<' && c != '>'

/-- What an escape, or a character outside one, stands for. -/
inductive Atom
  /-- A character; `hex` tells that it was written as two hexadecimal digits. -/
  | char (c : Char) (hex : Bool)
  | named (set : CodeSet)
  /-- A class with a one-letter escape. -/
  | letter (unicode ascii : CodeSet) (negated : Bool)
  | look (look : Look)
deriving Repr

def hexFixed (f : Flags) : (digits : Nat) → Nat → List Char → Option (Nat × List Char)
  | 0, n, rest => some (n, rest)
  | digits + 1, n, c :: rest =>
    match CodeSet.hexDigit c with
    | some d => hexFixed f digits (n * 16 + d) (if digits = 0 then rest else skip f rest)
    | none => none
  | _ + 1, _, [] => none

/-- The number written between braces. The fuel bounds the number of characters. -/
def hexBraced (f : Flags) : (fuel : Nat) → Option Nat → List Char → Option (Nat × List Char)
  | 0, _, _ => none
  | fuel + 1, n, text =>
    match skip f text with
    | '}' :: rest => n.map (·, rest)
    | c :: rest =>
      match CodeSet.hexDigit c with
      | some d => hexBraced f fuel (some (n.getD 0 * 16 + d)) rest
      | none => none
    | [] => none

def hexEscape (f : Flags) (digits : Nat) (text : List Char) : Option (Atom × List Char) :=
  let (read, fixed) :=
    match skip f text with
    | '{' :: rest => (hexBraced f (rest.length + 1) none rest, false)
    | text => (hexFixed f digits 0 text, digits == 2)
  match read with
  | some (n, rest) => if n.isValidChar then some (.char (Char.ofNat n) fixed, skip f rest) else none
  | none => none

/-- Cuts a name at the first `!=`, `:` or `=`, in this order of preference. -/
def cutName (name : List Char) : Option (List Char × Bool × List Char) :=
  let before (stop : Char) := name.takeWhile (· != stop)
  let after (stop : Char) := (name.dropWhile (· != stop)).drop 1
  let rec unequal (seen : List Char) : List Char → Option (List Char × List Char)
    | '!' :: '=' :: rest => some (seen.reverse, rest)
    | c :: rest => unequal (c :: seen) rest
    | [] => none
  match unequal [] name with
  | some (property, value) => some (property, true, value)
  | none =>
    if name.contains ':' then some (before ':', false, after ':')
    else if name.contains '=' then some (before '=', false, after '=')
    else none

def bracedClass (name : List Char) : Option (CodeSet × Bool) :=
  match cutName name with
  | some (property, negated, value) => (Property.valued? property value).map (·, negated)
  | none => (Property.named? name).map (·, false)

def classNameBraced (f : Flags) : (fuel : Nat) → List Char → List Char → Option (List Char × List Char)
  | 0, _, _ => none
  | fuel + 1, seen, text =>
    match skip f text with
    | '}' :: rest => some (seen.reverse, rest)
    | c :: rest => classNameBraced f fuel (c :: seen) rest
    | [] => none

def unicodeClass (f : Flags) (negated : Bool) (text : List Char) : Option (Atom × List Char) :=
  if !f.unicode then none
  else
    let found : Option ((CodeSet × Bool) × List Char) :=
      match skip f text with
      | '{' :: rest =>
        match classNameBraced f (rest.length + 1) [] rest with
        | some (name, rest) => (bracedClass name).map (·, rest)
        | none => none
      | '\\' :: _ => none
      | c :: rest =>
        (Property.category? (Property.normalize [c])).map fun set => ((set, false), skip f rest)
      | [] => none
    found.map fun ((set, unequal), rest) =>
      let set := if f.ignoreCase then set.foldCase else set
      (.named (if negated != unequal then set.complement lastScalar else set), rest)

/-- The letters and dashes at the front of a text, between which blanks and comments may stand where
the pattern is verbose, and what follows them. The fuel bounds their number. -/
def lookName (f : Flags) : (fuel : Nat) → List Char → List Char × List Char
  | fuel + 1, c :: rest =>
    if c.isAlpha || c == '-' then
      let (name, rest) := lookName f fuel (skip f rest)
      (c :: name, rest)
    else ([], c :: rest)
  | _, text => ([], text)

/-- The special word boundaries that may follow `\b`. A brace that begins none of them is left for
a repetition. -/
def wordLook (f : Flags) (text : List Char) : Option (Look × List Char) :=
  let ascii := !f.unicode
  match text with
  | '{' :: after =>
    let inner := skip f after
    match lookName f inner.length inner with
    | ([], []) => none
    | ([], _) => some (.wordEdge ascii, text)
    | (name, '}' :: rest) =>
      match String.ofList name with
      | "start" => some (.wordStart ascii, rest)
      | "end" => some (.wordEnd ascii, rest)
      | "start-half" => some (.wordStartHalf ascii, rest)
      | "end-half" => some (.wordEndHalf ascii, rest)
      | _ => none
    | _ => none
  | _ => some (.wordEdge ascii, text)

def escape (f : Flags) : List Char → Option (Atom × List Char)
  | [] => none
  | c :: rest =>
    let ascii := !f.unicode
    match c with
    | 'x' => hexEscape f 2 rest
    | 'u' => hexEscape f 4 rest
    | 'U' => hexEscape f 8 rest
    | 'p' => unicodeClass f false rest
    | 'P' => unicodeClass f true rest
    | 'd' => some (.letter Property.digit Property.asciiDigit false, rest)
    | 'D' => some (.letter Property.digit Property.asciiDigit true, rest)
    | 's' => some (.letter Property.space Property.asciiSpace false, rest)
    | 'S' => some (.letter Property.space Property.asciiSpace true, rest)
    | 'w' => some (.letter Property.word Property.asciiWord false, rest)
    | 'W' => some (.letter Property.word Property.asciiWord true, rest)
    | 'a' => some (.char '\x07' false, rest)
    | 'f' => some (.char '\x0C' false, rest)
    | 't' => some (.char '\t' false, rest)
    | 'n' => some (.char '\n' false, rest)
    | 'r' => some (.char '\r' false, rest)
    | 'v' => some (.char '\x0B' false, rest)
    | 'A' => some (.look .textStart, rest)
    | 'z' => some (.look .textEnd, rest)
    | 'B' => some (.look (.noWordEdge ascii), rest)
    | '<' => some (.look (.wordStart ascii), rest)
    | '>' => some (.look (.wordEnd ascii), rest)
    | 'b' => (wordLook f rest).map fun (l, rest) => (.look l, rest)
    | c => if isEscapable c then some (.char c false, rest) else none

/-- Whether a class may stand in a pattern: a class of bytes holds only ASCII where every match must
consist of whole scalars. -/
def admits (o : Options) (f : Flags) (set : CodeSet) : Bool :=
  f.unicode || !o.scalarsOnly || set.isBelow 0x7F

def classExpr (f : Flags) (set : CodeSet) : Expr :=
  if f.unicode then Expr.oneScalar set else Expr.oneByte set

def charExpr (o : Options) (f : Flags) (c : Char) (hex : Bool) : Option Expr :=
  if f.unicode then
    let set := CodeSet.singleton c.toNat
    some (Expr.oneScalar (if f.ignoreCase then set.foldCase else set))
  else if c.toNat < 0x80 then
    let set := CodeSet.singleton c.toNat
    some (Expr.oneByte (if f.ignoreCase then set.foldCaseAscii else set))
  else if hex && c.toNat ≤ 0xFF then
    if o.scalarsOnly then none else some (Expr.oneByte (CodeSet.singleton c.toNat))
  else some (Expr.oneScalar (CodeSet.singleton c.toNat))

def letterSet (o : Options) (f : Flags) (unicode ascii : CodeSet) (negated : Bool) : Option CodeSet :=
  if f.unicode then some (if negated then unicode.complement lastScalar else unicode)
  else
    let set := if negated then ascii.complement 0xFF else ascii
    if admits o f set then some set else none

def atomExpr (o : Options) (f : Flags) : Atom → Option Expr
  | .char c hex => charExpr o f c hex
  | .named set => some (Expr.oneScalar set)
  | .letter unicode ascii negated => (letterSet o f unicode ascii negated).map (classExpr f)
  | .look l => some (.look l)

def dot (o : Options) (f : Flags) : Option Expr :=
  let top := if f.unicode then lastScalar else 0xFF
  let lineEnds : CodeSet :=
    if f.dotAll then CodeSet.empty
    else if f.crlf then ⟨[(0x0A, 0x0A), (0x0D, 0x0D)]⟩
    else ⟨[(0x0A, 0x0A)]⟩
  let set := lineEnds.complement top
  if admits o f set then some (classExpr f set) else none

end Parser

end LogFollow.Pattern
