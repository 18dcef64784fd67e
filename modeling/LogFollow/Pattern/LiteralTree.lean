import LogFollow.Pattern.Draft

/-!
# Trees of literals

Alternatives that are all literals are drafted from a tree in which literals share what they begin with.
A place where a literal ends parts the steps from there: those that were added before it are preferred
to its end, and its end to those that were added behind it.
-/

namespace LogFollow.Pattern

/-- A place in a tree of literals: the groups of steps that the end of a literal followed, the last one
first, and the steps that came behind all ends. Steps of a group are in the order of their bytes. -/
inductive LiteralTree
  | node (closed : List (List (UInt8 × LiteralTree))) (current : List (UInt8 × LiteralTree))

namespace LiteralTree

/-- A place that nothing is known of. -/
def leaf : LiteralTree := .node [] []

def isLeaf : LiteralTree → Bool
  | .node closed current => current.isEmpty && closed.all (·.isEmpty)

/-- Changes the tree behind a byte, which is added in its place if it is missing. -/
def alter (byte : UInt8) (change : LiteralTree → LiteralTree) :
    List (UInt8 × LiteralTree) → List (UInt8 × LiteralTree)
  | [] => [(byte, change leaf)]
  | (b, tree) :: rest =>
    if b = byte then (b, change tree) :: rest
    else if byte < b then (byte, change leaf) :: (b, tree) :: rest
    else (b, tree) :: alter byte change rest

/-- Notes that a literal ends here. It makes no difference where nothing leads on and a literal ended
before. -/
def endHere : LiteralTree → LiteralTree
  | .node closed current =>
    if current.isEmpty && closed.all (·.isEmpty) && !closed.isEmpty then .node closed current
    else .node (current :: closed) []

def insert : Bytes → LiteralTree → LiteralTree
  | [], tree => tree.endHere
  | b :: rest, .node closed current => .node closed (alter b (insert rest) current)

def ofLiterals (literals : List Bytes) : LiteralTree :=
  literals.foldl (fun tree bytes => tree.insert bytes) leaf

def group : List Step → Drafting (List Nat)
  | [] => pure []
  | [step] => do pure [← Drafting.add (.consumeOne step)]
  | steps => do pure [← Drafting.add (.consume steps)]

mutual

/-- Drafts a place and all behind it; `exit` is where literals end. -/
def place (exit : Nat) : LiteralTree → Drafting Nat
  | .node closed current => do
    let before ← closedGroups exit closed
    let last ← group (← steps exit current)
    Drafting.add (.fork false (before ++ last).toArray)

/-- Drafts the groups before the current one. Each of them is followed by an end. -/
def closedGroups (exit : Nat) : List (List (UInt8 × LiteralTree)) → Drafting (List Nat)
  | [] => pure []
  | g :: earlier => do
    let before ← closedGroups exit earlier
    let last ← group (← steps exit g)
    pure (before ++ last ++ [exit])

/-- The steps of a group. -/
def steps (exit : Nat) : List (UInt8 × LiteralTree) → Drafting (List Step)
  | [] => pure []
  | (b, tree) :: rest => do
    let next ← if tree.isLeaf then pure exit else place exit tree
    let more ← steps exit rest
    pure (⟨b, b, next⟩ :: more)

end

def draft (literals : List Bytes) : Drafting Piece := do
  let exit ← Drafting.add (.pass 0)
  let entry ← place exit (ofLiterals literals)
  pure ⟨entry, exit⟩

end LiteralTree

end LogFollow.Pattern
