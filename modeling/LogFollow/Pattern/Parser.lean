import LogFollow.Pattern.Bracket
import LogFollow.Pattern.Group

/-!
# Reading patterns

The pattern syntax: literals and escapes, classes with set operations, groups with flags and names,
alternatives and repetitions. `parse` gives the expression and the names of the groups, or nothing
when the text is no pattern. The reader goes through the text once and keeps the open groups on a
stack, so an expression never needs to be read twice.
-/

namespace LogFollow.Pattern

/-- How deeply the parts of a pattern may be nested. -/
def nestLimit : Nat := 250

namespace Parser

/-- Reads one construct; `text` is not empty. -/
def step (o : Options) (s : State) (text : List Char) : Option (State × List Char) :=
  let f := s.flags
  match text with
  | [] => none
  | '(' :: rest => group s rest
  | ')' :: rest => s.closeGroup.map (·, rest)
  | '|' :: rest => some ({ s with branches := s.sequence :: s.branches, parts := [] }, rest)
  | '[' :: _ => (bracketed o f text).map fun (e, depth, rest) => (s.push e depth, rest)
  | '?' :: rest =>
    let (lazy, rest) := lazyMark rest
    (s.repeatLast 0 (some 1) lazy).map (·, rest)
  | '*' :: rest =>
    let (lazy, rest) := lazyMark rest
    (s.repeatLast 0 none lazy).map (·, rest)
  | '+' :: rest =>
    let (lazy, rest) := lazyMark rest
    (s.repeatLast 1 none lazy).map (·, rest)
  | '{' :: rest =>
    match bounds f rest with
    | some (least, most, rest) =>
      let (lazy, rest) := lazyMark (skip f rest)
      (s.repeatLast least most lazy).map (·, rest)
    | none => none
  | '\\' :: rest =>
    match escape f rest with
    | some (atom, rest) => (atomExpr o f atom).map fun e => (s.push e 0, rest)
    | none => none
  | '.' :: rest => (dot o f).map fun e => (s.push e 0, rest)
  | '^' :: rest =>
    let l := if !f.multiLine then Look.textStart else if f.crlf then .lineStartCrlf else .lineStart
    some (s.push (.look l) 0, rest)
  | '$' :: rest =>
    let l := if !f.multiLine then Look.textEnd else if f.crlf then .lineEndCrlf else .lineEnd
    some (s.push (.look l) 0, rest)
  | c :: rest => (charExpr o f c false).map fun e => (s.push e 0, rest)

/-- Reads the rest of a pattern. Each construct takes at least one character, so the length of the
text is enough fuel. -/
def loop (o : Options) : (fuel : Nat) → State → List Char → Option State
  | 0, s, text => if (skip s.flags text).isEmpty then some s else none
  | fuel + 1, s, text =>
    match skip s.flags text with
    | [] => some s
    | text =>
      match step o s text with
      | some (s, rest) => loop o fuel s rest
      | none => none

end Parser

/-- A pattern as read: its expression, and the name of each remembered group in order. A group that the
expression has lost has no name. -/
structure Parsed where
  expr : Expr
  names : List (Option String)

/-- The expression with the names of its groups, of which group `i` has the `i`th. -/
def Parsed.of (expr : Expr) (names : List (Option String)) : Parsed :=
  let kept := expr.groups
  { expr, names := names.mapIdx fun i name => if kept.contains (i + 1) then name else none }

def parse (o : Options) (pattern : String) : Option Parsed :=
  let text := pattern.toList
  match Parser.loop o text.length { flags := { multiLine := o.multiLine } } text with
  | some s =>
    if s.frames.isEmpty && s.choice.depth ≤ nestLimit then
      some (Parsed.of s.choice.expr s.names.reverse)
    else none
  | none => none

end LogFollow.Pattern
