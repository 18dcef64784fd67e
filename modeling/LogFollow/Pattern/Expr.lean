import LogFollow.Bytes
import LogFollow.Pattern.CodeSet

/-!
# Pattern expressions

What a pattern means, after parsing: expressions over bytes. A literal consumes its bytes, a character
class the UTF-8 bytes of one scalar, a byte class one byte, and a look-around consumes nothing but asks
for a property of the place it stands at. An expression tells how many bytes it can consume, whether
it can only stand at an end of the subject, and which groups it remembers.
-/

namespace LogFollow.Pattern

/-- Properties of a place in the subject. -/
inductive Look
  | textStart
  | textEnd
  /-- After a line feed or at the start of the subject. -/
  | lineStart
  /-- Before a line feed or at the end of the subject. -/
  | lineEnd
  /-- As `lineStart`, with carriage return and the pair of both as line ends too. -/
  | lineStartCrlf
  /-- As `lineEnd`, with carriage return and the pair of both as line ends too. -/
  | lineEndCrlf
  /-- Between a word character and one that is none. -/
  | wordEdge (ascii : Bool)
  | noWordEdge (ascii : Bool)
  | wordStart (ascii : Bool)
  | wordEnd (ascii : Bool)
  /-- Not after a word character. -/
  | wordStartHalf (ascii : Bool)
  /-- Not before a word character. -/
  | wordEndHalf (ascii : Bool)
deriving DecidableEq, Repr

/-- Whether a property is about word characters of all scripts. -/
def Look.isScalarEdge : Look → Bool
  | .wordEdge ascii | .noWordEdge ascii | .wordStart ascii | .wordEnd ascii
  | .wordStartHalf ascii | .wordEndHalf ascii => !ascii
  | _ => false

inductive Expr
  | empty
  /-- Bytes that stand for themselves. -/
  | literal (bytes : Bytes)
  /-- One scalar of a set, as the bytes of its UTF-8 form. -/
  | scalar (set : CodeSet)
  | byte (set : CodeSet)
  | look (look : Look)
  | group (index : Nat) (body : Expr)
  | seq (parts : List Expr)
  /-- Alternatives, in order of preference. -/
  | alt (branches : List Expr)
  /-- From `least` to `most` copies; as many as possible if `greedy`, as few as possible if not. -/
  | times (least : Nat) (most : Option Nat) (greedy : Bool) (body : Expr)
deriving Repr

/-- The numbers of bytes that an expression can consume. The least is missing where nothing matches, the
greatest where nothing matches or nothing bounds it. -/
structure Extent where
  least : Option Nat
  most : Option Nat
deriving DecidableEq, Repr

namespace Extent

def exactly (n : Nat) : Extent := ⟨some n, some n⟩

def plus : Option Nat → Option Nat → Option Nat
  | some a, some b => some (a + b)
  | _, _ => none

def append (a b : Extent) : Extent := ⟨plus a.least b.least, plus a.most b.most⟩

/-- The extent of alternatives, which has no end that one of them lacks. -/
def join : List Extent → Extent
  | [] => ⟨none, none⟩
  | e :: rest => rest.foldl (fun a b => ⟨pick min a.least b.least, pick max a.most b.most⟩) e
where
  pick (choose : Nat → Nat → Nat) : Option Nat → Option Nat → Option Nat
    | some a, some b => some (choose a b)
    | _, _ => none

def scale (least : Nat) (most : Option Nat) (e : Extent) : Extent :=
  ⟨e.least.map (· * least), most.bind fun n => e.most.map (· * n)⟩

def isVoid (e : Extent) : Bool := e.most == some 0

end Extent

/-- The number of bytes in the UTF-8 form of a scalar. -/
def scalarWidth (c : Nat) : Nat :=
  if c < 0x80 then 1 else if c < 0x800 then 2 else if c < 0x10000 then 3 else 4

namespace Expr

mutual

def same : Expr → Expr → Bool
  | .empty, .empty => true
  | .literal a, .literal b => a == b
  | .scalar a, .scalar b => a == b
  | .byte a, .byte b => a == b
  | .look a, .look b => a == b
  | .group i a, .group j b => i == j && same a b
  | .seq a, .seq b => sameAll a b
  | .alt a, .alt b => sameAll a b
  | .times l m g a, .times l' m' g' b => l == l' && m == m' && g == g' && same a b
  | _, _ => false

def sameAll : List Expr → List Expr → Bool
  | [], [] => true
  | a :: as, b :: bs => same a b && sameAll as bs
  | _, _ => false

end

mutual

/-- The numbers of bytes that an expression can consume. -/
def extent : Expr → Extent
  | .empty => .exactly 0
  | .literal bytes => .exactly bytes.length
  | .scalar set =>
    ⟨set.ranges.head?.map (scalarWidth ·.1), set.ranges.getLast?.map (scalarWidth ·.2)⟩
  | .byte set => if set.ranges.isEmpty then ⟨none, none⟩ else .exactly 1
  | .look _ => .exactly 0
  | .group _ body => extent body
  | .seq parts => (extents parts).foldl Extent.append (.exactly 0)
  | .alt branches => Extent.join (extents branches)
  | .times least most _ body => (extent body).scale least most

def extents : List Expr → List Extent
  | [] => []
  | e :: rest => extent e :: extents rest

end

mutual

/-- Whether every match of an expression begins, or if `backward` is set ends, where a property of the
place is asked for. -/
def demands (backward : Bool) (wanted : Look) : Expr → Bool
  | .look l => l == wanted
  | .group _ body => demands backward wanted body
  | .times least _ _ body => least > 0 && demands backward wanted body
  | .seq parts =>
    let answers := demandEach backward wanted parts
    ((if backward then answers.reverse else answers).foldl
      (fun (found, reached) (answer, void) => (found || (reached && answer), reached && void))
      (false, true)).1
  | .alt branches => (demandEach backward wanted branches).all (·.1)
  | _ => false

/-- For each expression, whether it demands the property and whether it consumes nothing. -/
def demandEach (backward : Bool) (wanted : Look) : List Expr → List (Bool × Bool)
  | [] => []
  | e :: rest => (demands backward wanted e, e.extent.isVoid) :: demandEach backward wanted rest

end

mutual

/-- The properties of places that an expression asks for. -/
def looks : Expr → List Look
  | .look l => [l]
  | .group _ body => looks body
  | .times _ _ _ body => looks body
  | .seq parts => looksOf parts
  | .alt branches => looksOf branches
  | _ => []

def looksOf : List Expr → List Look
  | [] => []
  | e :: rest => looks e ++ looksOf rest

end

mutual

def groups : Expr → List Nat
  | .group i body => i :: groups body
  | .times _ _ _ body => groups body
  | .seq parts => groupsOf parts
  | .alt branches => groupsOf branches
  | _ => []

def groupsOf : List Expr → List Nat
  | [] => []
  | e :: rest => groups e ++ groupsOf rest

end

end Expr

end LogFollow.Pattern
