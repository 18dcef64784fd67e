import LogFollow.Pattern.Atom

/-!
# Bracketed classes

A class in brackets holds characters, ranges, escapes, named classes and further brackets; these are
united, and `&&`, `--` and `~~` intersect, subtract and take the symmetric difference. The reader keeps
the open brackets and the operations that wait for their right side on a stack.
-/

namespace LogFollow.Pattern

namespace Parser

inductive SetOp
  | inter
  | diff
  | symm
deriving DecidableEq, Repr

/-- Items that were read one after another: their members together, their number, and how deeply the
deepest of them is nested. -/
structure Items where
  set : CodeSet := CodeSet.empty
  count : Nat := 0
  deepest : Nat := 0
deriving Repr

def Items.add (items : Items) (set : CodeSet) (depth : Nat) : Items :=
  ⟨items.set.union set, items.count + 1, max items.deepest depth⟩

/-- How deeply items are nested. Several of them are nested once more than the deepest one. -/
def Items.depth (items : Items) : Nat := if items.count > 1 then items.deepest + 1 else items.deepest

/-- An open bracket with the items before it, or an operation that waits for its right side, with how
deeply its left side is nested. -/
inductive SetFrame
  | bracket (negated : Bool) (before : Items)
  | operation (op : SetOp) (left : CodeSet) (depth : Nat)
deriving Repr

def classTop (f : Flags) : Nat := if f.unicode then lastScalar else 0xFF

def foldSet (f : Flags) (set : CodeSet) : CodeSet :=
  if !f.ignoreCase then set else if f.unicode then set.foldCase else set.foldCaseAscii

/-- The code point of a character in a class; in a class of bytes only bytes may stand. -/
def classChar (o : Options) (f : Flags) (c : Char) (hex : Bool) : Option Nat :=
  if f.unicode || c.toNat < 0x80 || (hex && c.toNat ≤ 0xFF && !o.scalarsOnly) then some c.toNat else none

def applyOp (f : Flags) (op : SetOp) (left right : CodeSet) : CodeSet :=
  let left := foldSet f left
  let right := foldSet f right
  match op with
  | .inter => left.inter right
  | .diff => left.diff right
  | .symm => left.symmDiff right

/-- Finishes a pending operation on top of the stack. Gives the set, and how deeply it is nested. -/
def finishOp (f : Flags) (items : Items) : List SetFrame → CodeSet × Nat × List SetFrame
  | .operation op left depth :: stack =>
    (applyOp f op left items.set, max depth items.depth + 1, stack)
  | stack => (items.set, items.depth, stack)

/-- Reads a bracketed ASCII class such as `[:alpha:]`; `text` follows its first bracket. -/
def asciiClass (f : Flags) (text : List Char) : Option (CodeSet × List Char) :=
  match text with
  | ':' :: text =>
    let (negated, text) := match text with
      | '^' :: rest => (true, rest)
      | text => (false, text)
    let name := text.takeWhile (· != ':')
    match text.dropWhile (· != ':') with
    | ':' :: ']' :: rest =>
      (Property.ascii? (String.ofList name)).map fun set =>
        let set := foldSet f set
        (if negated then set.complement (classTop f) else set, rest)
    | _ => none
  | _ => none

/-- Reads what stands at the head of a class after its bracket: a caret, dashes, a bracket. -/
def classOpen (f : Flags) (text : List Char) : Option (Bool × Items × List Char) :=
  let text := skip f text
  let (negated, text) := match text with
    | '^' :: rest => (true, skip f rest)
    | text => (false, text)
  let rec dashes (items : Items) : (fuel : Nat) → List Char → Items × List Char
    | fuel + 1, '-' :: rest => dashes (items.add (CodeSet.singleton 0x2D) 0) fuel (skip f rest)
    | _, text => (items, text)
  let (items, text) := dashes {} text.length text
  match text with
  | [] => none
  | ']' :: rest =>
    if items.count > 0 then some (negated, items, text)
    else if (skip f rest).isEmpty then none
    else some (negated, items.add (CodeSet.singleton 0x5D) 0, skip f rest)
  | text => some (negated, items, text)

/-- An item of a class: a character, or a class of its own. -/
def classItem (f : Flags) : List Char → Option (Atom × List Char)
  | '\\' :: rest => escape f rest
  | c :: rest => some (.char c false, rest)
  | [] => none

def itemSet (o : Options) (f : Flags) : Atom → Option CodeSet
  | .char c hex => (classChar o f c hex).map CodeSet.singleton
  | .named set => some set
  | .letter unicode ascii negated => letterSet o f unicode ascii negated
  | .look _ => none

/-- The character that decides whether a dash begins a range: the one after it. Where the pattern is
verbose, blanks are passed over, and so is a number sign, once; if nothing follows them, the character
right after the dash decides. -/
def peekSpace (f : Flags) (text : List Char) : Option Char :=
  if f.verbose then (beyond false text).or text.head? else text.head?
where
  /-- The first character that is not passed over; `marked` tells that a number sign was. -/
  beyond (marked : Bool) : List Char → Option Char
    | [] => none
    | c :: rest =>
      if isBlank c then beyond marked rest
      else if !marked && c == '#' then beyond true rest
      else some c

def classRange (o : Options) (f : Flags) (text : List Char) : Option (CodeSet × List Char) :=
  match classItem f text with
  | none => none
  | some (first, rest) =>
    match skip f rest with
    | '-' :: after =>
      if peekSpace f after = some ']' ∨ peekSpace f after = some '-' then
        (itemSet o f first).map (·, '-' :: after)
      else
        match first, classItem f (skip f after) with
        | .char a hexA, some (.char b hexB, rest) =>
          match classChar o f a hexA, classChar o f b hexB with
          | some lo, some hi => if lo ≤ hi then some (⟨[(lo, hi)]⟩, rest) else none
          | _, _ => none
        | _, _ => none
    | [] => none
    | rest => (itemSet o f first).map (·, rest)

/-- Reads the rest of a class. `items` are those read since the innermost bracket or operation. Each
bracket must be admitted on its own. Gives the set, and how deeply the class is nested. -/
def classLoop (o : Options) (f : Flags) : (fuel : Nat) → List SetFrame → Items → List Char →
    Option (CodeSet × Nat × List Char)
  | 0, _, _, _ => none
  | fuel + 1, stack, items, text =>
    let operation (op : SetOp) (rest : List Char) :=
      let (left, depth, stack) := finishOp f items stack
      classLoop o f fuel (.operation op left depth :: stack) {} rest
    match skip f text with
    | [] => none
    | '[' :: rest =>
      match (if stack.isEmpty then none else asciiClass f rest) with
      | some (more, rest) =>
        if admits o f more then classLoop o f fuel stack (items.add more 0) rest else none
      | none =>
        match classOpen f rest with
        | none => none
        | some (negated, inner, rest) => classLoop o f fuel (.bracket negated items :: stack) inner rest
    | ']' :: rest =>
      let (set, depth, stack) := finishOp f items stack
      match stack with
      | .bracket negated before :: stack =>
        let folded := foldSet f set
        let closed := if negated then folded.complement (classTop f) else folded
        if !admits o f closed then none
        else if stack.isEmpty then some (closed, depth + 1, rest)
        else classLoop o f fuel stack (before.add closed (depth + 1)) rest
      | _ => none
    | '&' :: '&' :: rest => operation .inter rest
    | '-' :: '-' :: rest => operation .diff rest
    | '~' :: '~' :: rest => operation .symm rest
    | text =>
      match classRange o f text with
      | none => none
      | some (more, rest) => classLoop o f fuel stack (items.add more 0) rest

def bracketed (o : Options) (f : Flags) (text : List Char) : Option (Expr × Nat × List Char) :=
  match classLoop o f (2 * text.length + 1) [] {} text with
  | some (set, depth, rest) => some (classExpr f set, depth, rest)
  | none => none

end Parser

end LogFollow.Pattern
