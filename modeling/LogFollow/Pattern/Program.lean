import LogFollow.Pattern.LiteralTree
import LogFollow.Pattern.ScalarClass

/-!
# Programs

A pattern expression becomes a program, which is drafted for one direction: forward, to find matches,
or backward, to find where a match begins that is known to end at a place. The search of this library
goes forward only, but a pattern must fit into the limit both ways.
-/

namespace LogFollow.Pattern

/-- A program: the state to start at, the states, and the bytes that they take. -/
structure Program where
  start : Nat
  states : Array State
  size : Nat
deriving Repr

namespace Drafting

def optionally (greedy : Bool) (make : Drafting Piece) : Drafting Piece := do
  let entry ← fork (!greedy)
  let piece ← make
  let exit ← add (.pass 0)
  link entry piece.entry
  link entry exit
  link piece.exit exit
  pure ⟨entry, exit⟩

/-- Drafts `n` optional pieces behind `piece`, each inside the one before; all of them may stop at
`exit`. -/
def optionalCopies (greedy : Bool) (make : Drafting Piece) (exit : Nat) : (n : Nat) → Piece →
    Drafting Piece
  | 0, piece => do
    link piece.exit exit
    pure ⟨piece.entry, exit⟩
  | n + 1, piece => do
    let way ← fork (!greedy)
    let copy ← make
    link piece.exit way
    link way copy.entry
    link way exit
    optionalCopies greedy make exit n ⟨piece.entry, copy.exit⟩

def onceOrMore (greedy : Bool) (make : Drafting Piece) : Drafting Piece := do
  let piece ← make
  let way ← fork (!greedy)
  link piece.exit way
  link way piece.entry
  pure ⟨piece.entry, way⟩

/-- Drafts any number of copies of a piece; `consumes` tells that each of them consumes something. -/
def anyNumber (greedy consumes : Bool) (make : Drafting Piece) : Drafting Piece := do
  if consumes then
    let way ← fork (!greedy)
    let piece ← make
    link way piece.entry
    link piece.exit way
    pure ⟨way, way⟩
  else
    let piece ← onceOrMore greedy make
    let way ← fork (!greedy)
    let exit ← add (.pass 0)
    link way piece.entry
    link way exit
    link piece.exit exit
    pure ⟨way, exit⟩

/-- Drafts `least` to `most` copies of a piece. -/
def repeated (least : Nat) (most : Option Nat) (greedy consumes : Bool) (make : Drafting Piece) :
    Drafting Piece :=
  match least, most with
  | 0, some 1 => optionally greedy make
  | 0, none => anyNumber greedy consumes make
  | 1, none => onceOrMore greedy make
  | least + 1, none => do
    let before ← copies make least
    let last ← onceOrMore greedy make
    join before last
  | least, some most => do
    let before ← copies make least
    if least = most then pure before
    else
      let exit ← add (.pass 0)
      optionalCopies greedy make exit (most - least) before

/-- Links the forks of alternatives: each alternative begins at the entry and ends at the exit. -/
def linkBranch (whole branch : Piece) : Drafting Unit := do
  link whole.entry branch.entry
  link branch.exit whole.exit

def moreBranches (whole : Piece) : List (Drafting Piece) → Drafting Piece
  | [] => pure whole
  | make :: rest => do
    linkBranch whole (← make)
    moreBranches whole rest

def branches : List (Drafting Piece) → Drafting Piece
  | [] => pass
  | [make] => make
  | make :: another :: rest => do
    let first ← make
    let second ← another
    let whole : Piece := ⟨← fork false, ← add (.pass 0)⟩
    linkBranch whole first
    linkBranch whole second
    moreBranches whole rest

/-- Drafts a piece between states that remember the places of a group. -/
def remembered (index : Nat) (make : Drafting Piece) : Drafting Piece := do
  let entry ← add (.save (2 * index) 0)
  let piece ← make
  let exit ← add (.save (2 * index + 1) 0)
  link entry piece.entry
  link piece.exit exit
  pure ⟨entry, exit⟩

def literal? : Expr → Option Bytes
  | .literal bytes => some bytes
  | _ => none

mutual

/-- Drafts an expression. Groups are remembered only where the program is read forward. -/
def expr (backward : Bool) : Expr → Drafting Piece
  | .empty => pass
  | .literal bytes => literal backward bytes
  | .scalar set => ScalarClass.draft backward set
  | .byte set => byteClass set
  | .look l => single (.look l 0)
  | .group index body =>
    if backward then expr backward body else remembered index (expr backward body)
  | .seq parts =>
    let pieces := exprs backward parts
    sequence (if backward then pieces.reverse else pieces)
  | .alt all =>
    match all.mapM literal? with
    | some literals =>
      LiteralTree.draft (if backward then literals.map List.reverse else literals)
    | none => branches (exprs backward all)
  | .times least most greedy body =>
    repeated least most greedy (body.extent.least.any (· > 0)) (expr backward body)

def exprs (backward : Bool) : List Expr → List (Drafting Piece)
  | [] => []
  | e :: rest => expr backward e :: exprs backward rest

end

/-- Drafts what stands before an expression that may match anywhere: any bytes, as few as possible. -/
def approach (backward : Bool) (e : Expr) : Drafting Piece :=
  if e.demands backward (if backward then .textEnd else .textStart) then pass
  else anyNumber false true (byteClass ⟨[(0, 0xFF)]⟩)

/-- Drafts a whole program and gives the state at which a match begins. -/
def whole (backward : Bool) (e : Expr) : Drafting Nat := do
  let before ← approach backward e
  let piece ← if backward then expr backward e else remembered 0 (expr backward e)
  let accept ← add .accept
  link piece.exit accept
  link before.exit piece.entry
  pure piece.entry

end Drafting

/-- The program of an expression for a direction, if it fits into the limit. -/
def Program.ofExpr? (backward : Bool) (e : Expr) : Option Program :=
  ((Drafting.whole backward e).run {}).map fun (start, draft) => ⟨start, draft.states, draft.size⟩

end LogFollow.Pattern
