import LogFollow.Pattern.Expr
import LogFollow.Text.Utf8

/-!
# Normal forms of expressions

The functions here build expressions that are as plain as they can be: a sequence holds neither
sequences nor empty parts, and no two literals stand side by side; alternatives hold no alternatives,
become a class where they are characters or classes, and share the parts that all of them begin with;
a repetition of what consumes nothing is done at most once, and a part that is repeated no times
vanishes, with the groups in it.
-/

namespace LogFollow.Pattern.Expr

/-- The expression that matches nothing. -/
def fail : Expr := .byte CodeSet.empty

def only? (set : CodeSet) : Option Nat :=
  match set.ranges with
  | [(lo, hi)] => if lo = hi then some lo else none
  | _ => none

def oneScalar (set : CodeSet) : Expr :=
  if set.ranges.isEmpty then fail
  else
    match only? set with
    | some c => .literal (String.utf8EncodeChar (Char.ofNat c))
    | none => .scalar set

def oneByte (set : CodeSet) : Expr :=
  match only? set with
  | some b => .literal [UInt8.ofNat b]
  | none => .byte set

/-- Puts a part that is no sequence before parts. -/
def put (e : Expr) (rest : List Expr) : List Expr :=
  match e, rest with
  | .empty, _ => rest
  | .literal a, .literal b :: more => .literal (a ++ b) :: more
  | _, _ => e :: rest

/-- Puts a part, or the parts of a sequence, before parts. -/
def absorb (e : Expr) (rest : List Expr) : List Expr :=
  match e with
  | .seq inner => inner.foldr put rest
  | _ => put e rest

def sequence (parts : List Expr) : Expr :=
  match parts.foldr absorb [] with
  | [] => .empty
  | [e] => e
  | parts => .seq parts

def branches : Expr → List Expr
  | .alt inner => inner
  | e => [e]

def parts : Expr → List Expr
  | .seq inner => inner
  | _ => []

/-- The scalar whose UTF-8 form a literal is. -/
def loneScalar? : Expr → Option Nat
  | .literal bytes =>
    match Text.Utf8.front bytes with
    | .scalar value size => if size = bytes.length then some value else none
    | _ => none
  | _ => none

def loneByte? : Expr → Option Nat
  | .literal [b] => some b.toNat
  | _ => none

/-- The set of a class, as a set of scalars. -/
def scalarClass? : Expr → Option CodeSet
  | .scalar set => some set
  | .byte set => if set.isBelow 0x7F then some set else none
  | _ => none

def byteClass? : Expr → Option CodeSet
  | .byte set => some set
  | .scalar set => if set.isBelow 0x7F then some set else none
  | _ => none

def unite (sets : List CodeSet) : CodeSet := CodeSet.ofRanges (sets.flatMap (·.ranges))

/-- The class that alternatives amount to, if all of them are characters, bytes or classes. -/
def oneClass? (all : List Expr) : Option Expr :=
  let chars := (all.mapM loneScalar?).map fun cs => oneScalar (unite (cs.map CodeSet.singleton))
  let bytes := fun (_ : Unit) =>
    (all.mapM loneByte?).map fun bs => oneByte (unite (bs.map CodeSet.singleton))
  let scalarClasses := fun (_ : Unit) => (all.mapM scalarClass?).map fun sets => oneScalar (unite sets)
  let byteClasses := fun (_ : Unit) => (all.mapM byteClass?).map fun sets => oneByte (unite sets)
  ((chars.orElse bytes).orElse scalarClasses).orElse byteClasses

def sharedCount : List Expr → List Expr → Nat
  | a :: as, b :: bs => if same a b then sharedCount as bs + 1 else 0
  | _, _ => 0

/-- The number of parts that all alternatives begin with. -/
def sharedByAll : List Expr → Nat
  | [] => 0
  | first :: rest =>
    (rest.map fun e => sharedCount first.parts e.parts).foldl min first.parts.length

/-- The expressions in order of preference. `share` says what becomes of alternatives that are no
class. -/
def choiceWith (share : List Expr → Expr) (alternatives : List Expr) : Expr :=
  match alternatives.flatMap branches with
  | [] => fail
  | [e] => e
  | all => (oneClass? all).getD (share all)

/-- The expressions in order of preference. Parts that all of them begin with are taken out, after
which the rests do not begin with a common part. -/
def choice : List Expr → Expr
  | [e] => e
  | alternatives =>
    choiceWith (fun all =>
      match sharedByAll all with
      | 0 => .alt all
      | n =>
        let rests := all.map fun e => sequence (e.parts.drop n)
        sequence ((all.head?.map (·.parts.take n)).getD [] ++ [choiceWith .alt rests])) alternatives

def repeated (least : Nat) (most : Option Nat) (greedy : Bool) (body : Expr) : Expr :=
  let void := body.extent.isVoid
  let least := if void then min least 1 else least
  let most := if void then some (min (most.getD 1) 1) else most
  if most == some 0 then .empty
  else if least = 1 ∧ most = some 1 then body
  else .times least most greedy body

end LogFollow.Pattern.Expr
