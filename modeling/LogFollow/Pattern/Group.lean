import LogFollow.Pattern.Flags
import LogFollow.Pattern.NormalForm
import LogFollow.Text.Letter

/-!
# Groups and repetitions

The state of the reader of patterns holds the open groups. A group is opened with a name, a number or
flags of its own, and closes with the alternatives that it holds; a repetition takes the part before it.
-/

namespace LogFollow.Pattern

namespace Parser

/-- Whether a character may stand in the name of a group. -/
def isNameChar (first : Bool) (c : Char) : Bool :=
  c == '_' || Text.Letter.isAlphabetic c
    || (!first && (c == '.' || c == '[' || c == ']' || Text.Letter.isAlphanumeric c))

/-- Reads the name of a group up to its closing angle bracket. -/
def groupName (text : List Char) : Option (String × List Char) :=
  let name := text.takeWhile (· != '>')
  match name, text.dropWhile (· != '>') with
  | c :: more, '>' :: rest =>
    if isNameChar true c && more.all (isNameChar false) then some (String.ofList name, rest) else none
  | _, _ => none

structure Part where
  expr : Expr
  repeatable : Bool := true
  depth : Nat := 0

/-- A group that is open: what was read before it and the flags to return to. -/
structure Frame where
  /-- The number of the group, if its place is remembered. -/
  index : Option Nat
  flags : Flags
  parts : List Part
  branches : List Part

/-- The state of the reader: the flags in force, the open groups, the alternatives and the sequence
read so far in the innermost group (last one first), and the names of the groups so far. -/
structure State where
  flags : Flags
  frames : List Frame := []
  branches : List Part := []
  parts : List Part := []
  /-- The names of the remembered groups, last one first. -/
  names : List (Option String) := []

def depthOf (parts : List Part) : Nat :=
  let deepest := parts.foldl (fun d p => max d p.depth) 0
  if parts.length > 1 then deepest + 1 else deepest

/-- The sequence read so far as one part. -/
def State.sequence (s : State) : Part :=
  { expr := Expr.sequence (s.parts.reverse.map (·.expr)), depth := depthOf s.parts }

/-- All alternatives as one part. -/
def State.choice (s : State) : Part :=
  let all := (s.sequence :: s.branches).reverse
  { expr := Expr.choice (all.map (·.expr)), depth := depthOf all }

def State.push (s : State) (expr : Expr) (depth : Nat) : State :=
  { s with parts := { expr, depth } :: s.parts }

def State.openGroup (s : State) (index : Option Nat) (inner : Flags) : State :=
  { s with
    flags := inner
    frames := { index, flags := s.flags, parts := s.parts, branches := s.branches } :: s.frames
    parts := []
    branches := [] }

def State.openNumbered (s : State) (name : Option String) : State :=
  { s.openGroup (some (s.names.length + 1)) s.flags with names := name :: s.names }

def State.closeGroup (s : State) : Option State :=
  match s.frames with
  | [] => none
  | frame :: frames =>
    let inner := s.choice
    let expr := match frame.index with
      | some i => Expr.group i inner.expr
      | none => inner.expr
    some { s with
      flags := frame.flags
      frames
      branches := frame.branches
      parts := { expr, depth := inner.depth + 1 } :: frame.parts }

def State.repeatLast (s : State) (least : Nat) (most : Option Nat) (lazy : Bool) : Option State :=
  match s.parts with
  | part :: parts =>
    if part.repeatable then
      let greedy := lazy == s.flags.swapGreed
      some { s with parts :=
        { expr := .repeated least most greedy part.expr, depth := part.depth + 1 } :: parts }
    else none
  | [] => none

/-- Whether a question mark follows, and what follows it. -/
def lazyMark : List Char → Bool × List Char
  | '?' :: rest => (true, rest)
  | rest => (false, rest)

/-- Reads the digits of a decimal number after those that make up `n`. Where the pattern is verbose,
blanks and comments may part them. The fuel bounds the number of digits. -/
def digits (f : Flags) : (fuel : Nat) → (n : Option Nat) → List Char → Option Nat × List Char
  | fuel + 1, n, c :: rest =>
    if c.isDigit then digits f fuel (some (n.getD 0 * 10 + (c.toNat - 48))) (skip f rest)
    else (n, c :: rest)
  | _, n, text => (n, text)

/-- Drops blanks, and what is skipped after each of them. The fuel bounds their number. -/
def dropBlanks (f : Flags) : (fuel : Nat) → List Char → List Char
  | fuel + 1, c :: rest => if isBlank c then dropBlanks f fuel (skip f rest) else c :: rest
  | _, text => text

/-- The numbers that a repetition may have lie below this one. -/
def countLimit : Nat := 4294967296

def decimal (f : Flags) (text : List Char) : Option (Nat × List Char) :=
  let text := text.dropWhile isBlank
  match digits f text.length none text with
  | (some n, rest) => if n < countLimit then some (n, dropBlanks f rest.length rest) else none
  | (none, _) => none

/-- Reads the bounds of a repetition after its brace. -/
def bounds (f : Flags) (text : List Char) : Option (Nat × Option Nat × List Char) :=
  match decimal f (skip f text) with
  | some (least, ',' :: rest) =>
    match skip f rest with
    | '}' :: rest => some (least, none, rest)
    | text =>
      match decimal f text with
      | some (most, '}' :: rest) => if least ≤ most then some (least, some most, rest) else none
      | _ => none
  | some (n, '}' :: rest) => some (n, some n, rest)
  | _ => none

/-- Opens the group whose parenthesis was read, or sets flags. -/
def group (s : State) (text : List Char) : Option (State × List Char) :=
  let named (text : List Char) : Option (State × List Char) :=
    match groupName text with
    | some (name, rest) =>
      if s.names.contains (some name) then none else some (s.openNumbered (some name), rest)
    | none => none
  match skip s.flags text with
  | '?' :: '=' :: _ | '?' :: '!' :: _ | '?' :: '<' :: '=' :: _ | '?' :: '<' :: '!' :: _ => none
  | '?' :: 'P' :: '<' :: rest => named rest
  | '?' :: '<' :: rest => named rest
  | '?' :: rest =>
    match flags s.flags [] false false rest with
    | some (inner, _, ':' :: rest) => some (s.openGroup none inner, rest)
    | some (inner, true, ')' :: rest) =>
      some ({ s with flags := inner, parts := { expr := .empty, repeatable := false } :: s.parts }, rest)
    | _ => none
  | rest => some (s.openNumbered none, rest)

end Parser

end LogFollow.Pattern
