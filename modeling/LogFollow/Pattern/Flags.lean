import LogFollow.Pattern.Property

/-!
# Flags of patterns

A pattern is read under flags, which groups can change. Where a pattern is verbose, blanks in it mean
nothing, and `#` begins a comment.
-/

namespace LogFollow.Pattern

/-- The flags in force at a place in a pattern. -/
structure Flags where
  ignoreCase : Bool := false
  multiLine : Bool := false
  dotAll : Bool := false
  swapGreed : Bool := false
  unicode : Bool := true
  crlf : Bool := false
  verbose : Bool := false
deriving DecidableEq, Repr

/-- What patterns are matched against, and the flags they start with. -/
structure Options where
  /-- Whether every match must consist of whole scalars. -/
  scalarsOnly : Bool
  multiLine : Bool := false
deriving DecidableEq, Repr

namespace Parser

def isBlank (c : Char) : Bool :=
  Property.space.contains c.toNat

/-- Drops blanks and comments where the pattern is verbose. -/
def skip (f : Flags) : List Char → List Char
  | [] => []
  | c :: rest =>
    if !f.verbose then c :: rest
    else if isBlank c then skip f rest
    else if c = '#' then skipComment f rest
    else c :: rest
where
  skipComment (f : Flags) : List Char → List Char
    | [] => []
    | c :: rest => if c = '\n' then skip f rest else skipComment f rest

def setFlag (f : Flags) (c : Char) (value : Bool) : Option Flags :=
  match c with
  | 'i' => some { f with ignoreCase := value }
  | 'm' => some { f with multiLine := value }
  | 's' => some { f with dotAll := value }
  | 'U' => some { f with swapGreed := value }
  | 'u' => some { f with unicode := value }
  | 'R' => some { f with crlf := value }
  | 'x' => some { f with verbose := value }
  | _ => none

/-- Reads flags up to a colon or a closing parenthesis, which is left in place. `seen` holds the
flags that were named; none may be named twice, and one dash may stand before those to be cleared. -/
def flags (f : Flags) (seen : List Char) (cleared : Bool) (afterDash : Bool) :
    List Char → Option (Flags × Bool × List Char)
  | [] => none
  | c :: rest =>
    if c = ':' ∨ c = ')' then
      if afterDash then none else some (f, !seen.isEmpty, c :: rest)
    else if c = '-' then
      if cleared then none else flags f ('-' :: seen) true true rest
    else if seen.contains c then none
    else
      match setFlag f c (!cleared) with
      | some f => flags f (c :: seen) cleared false rest
      | none => none

end Parser

end LogFollow.Pattern
