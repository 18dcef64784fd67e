import LogFollow.Pattern.Program
import Mathlib.Data.List.Basic

/-!
# The program of a literal

The program of a literal is a chain: one state for each byte, in a row, between the state that remembers
where the match begins and those that remember its end and accept. The states before them belong to
what may stand before a match; a search does not enter them. A literal that is not too long fits into
the limit whichever way it is read.
-/
namespace LogFollow.Pattern

/-- The state that consumes one byte. -/
def State.one (b : UInt8) (next : Nat) : State := .consumeOne ⟨b, b, next⟩

/-- The states that consume bytes one after another, of which the first one has number `first`. -/
def byteStates (first : Nat) : Bytes → List State
  | [] => []
  | b :: rest => .one b (first + 1) :: byteStates (first + 1) rest

theorem length_byteStates (first : Nat) (bytes : Bytes) :
    (byteStates first bytes).length = bytes.length := by
  induction bytes generalizing first with
  | nil => rfl
  | cons b rest ih => rw [byteStates, List.length_cons, ih, List.length_cons]

theorem getElem?_byteStates (first : Nat) (bytes : Bytes) (i : Nat) :
    (byteStates first bytes)[i]? = bytes[i]?.map (State.one · (first + i + 1)) := by
  induction bytes generalizing first i with
  | nil => simp [byteStates]
  | cons b rest ih =>
    cases i with
    | zero => simp [byteStates]
    | succ i => simp [byteStates, ih, Nat.add_right_comm, Nat.add_assoc]

/-- The draft of states in order. -/
def Draft.of (states : List State) (size : Nat) : Draft := ⟨states.toArray, size⟩

namespace Drafting

variable {α β : Type} {draft : Draft} {states front back : List State} {state : State} {size : Nat}

theorem bind_eq {make : Drafting α} {a : α} {next : Draft} (h : make draft = some (a, next))
    (more : α → Drafting β) : (make >>= more) draft = more a next := by
  change (make draft).bind _ = _
  rw [h]
  rfl

theorem add_of (h : size + state.size ≤ sizeLimit) :
    add state (.of states size) =
      some (states.length, .of (states ++ [state]) (size + state.size)) := by
  have hadd : add state (.of states size) =
      some (states.toArray.size, ⟨states.toArray.push state, size + state.size⟩) :=
    if_neg (Nat.not_lt.mpr h)
  rw [hadd, List.push_toArray, List.size_toArray]
  rfl

theorem single_of (h : size + state.size ≤ sizeLimit) :
    single state (.of states size) =
      some (⟨states.length, states.length⟩, .of (states ++ [state]) (size + state.size)) :=
  bind_eq (add_of h) _

/-- The bytes that a link adds to a state. -/
def growth (state : State) : Nat := if isFork state then State.numberSize else 0

theorem modify_append (change : State → State) :
    (front ++ state :: back).modify front.length change = front ++ change state :: back := by
  induction front with
  | nil => rfl
  | cons _ front ih => exact congrArg _ ih

theorem link_of (h : size + growth state ≤ sizeLimit) (target : Nat) :
    link front.length target (.of (front ++ state :: back) size) =
      some ((), .of (front ++ linked target state :: back) (size + growth state)) := by
  have hsource : (front ++ state :: back).toArray[front.length]? = some state := by simp
  have hgrown : (if ((front ++ state :: back).toArray[front.length]?).any isFork then
      State.numberSize else 0) = growth state := by
    rw [hsource]
    rfl
  have hlink : link front.length target (.of (front ++ state :: back) size) =
      some ((), ⟨(front ++ state :: back).toArray.modify front.length (linked target),
        size + growth state⟩) := by
    rw [← hgrown] at h ⊢
    exact if_neg (Nat.not_lt.mpr h)
  rw [hlink, List.modify_toArray, modify_append]
  rfl

theorem range_of (b : UInt8) (h : size + State.baseSize ≤ sizeLimit) :
    range b b (.of states size) =
      some (⟨states.length, states.length⟩,
        .of (states ++ [.one b 0]) (size + State.baseSize)) :=
  single_of h

/-- A byte behind a piece that ends with a byte. -/
theorem join_one {b c : UInt8} (h : size ≤ sizeLimit) (entry : Nat) :
    join ⟨entry, front.length⟩ ⟨front.length + 1, front.length + 1⟩
        (.of (front ++ .one b 0 :: [.one c 0]) size) =
      some (⟨entry, front.length + 1⟩,
        .of (front ++ .one b (front.length + 1) :: [.one c 0]) size) :=
  bind_eq (@link_of front [.one c 0] (.one b 0) _ h _) _

/-- More bytes behind a byte: the last one of them leads nowhere yet. -/
theorem chain_ranges (rest : Bytes) (b : UInt8) (entry : Nat)
    (h : size + State.baseSize * rest.length ≤ sizeLimit) :
    ∃ inner c, chain ⟨entry, front.length⟩ (rest.map fun b => range b b)
          (.of (front ++ [.one b 0]) size) =
        some (⟨entry, front.length + inner.length⟩,
          .of (front ++ inner ++ [.one c 0]) (size + State.baseSize * rest.length)) ∧
      inner ++ [.one c (front.length + inner.length + 1)] = byteStates front.length (b :: rest) := by
  -- the last state so far is linked only when the next byte has a state, so it stands apart
  induction rest generalizing front b size with
  | nil => exact ⟨[], b, by rw [List.append_nil]; rfl, rfl⟩
  | cons c rest ih =>
    rw [List.length_cons, Nat.mul_succ, Nat.add_comm (State.baseSize * _), ← Nat.add_assoc] at h ⊢
    have hsize : size + State.baseSize ≤ sizeLimit := Nat.le_trans (Nat.le_add_right _ _) h
    have hmake : range c c (.of (front ++ [.one b 0]) size) =
        some (⟨front.length + 1, front.length + 1⟩,
          .of (front ++ .one b 0 :: [.one c 0]) (size + State.baseSize)) := by
      have hs := @range_of (front ++ [.one b 0]) _ c hsize
      rwa [List.length_append, List.length_singleton, List.append_assoc] at hs
    obtain ⟨inner, last, hchain, hinner⟩ :=
      @ih (front ++ [.one b (front.length + 1)]) _ c h
    rw [List.length_append, List.length_singleton, Nat.add_assoc front.length 1,
      Nat.add_comm 1 inner.length] at hchain hinner
    refine ⟨.one b (front.length + 1) :: inner, last, ?_, congrArg _ hinner⟩
    rw [List.map_cons, chain, bind_eq hmake, bind_eq (join_one hsize entry)]
    simpa only [List.append_assoc, List.cons_append, List.nil_append, List.length_cons] using hchain

/-- The bytes of a literal that is not empty: the last one of them leads nowhere yet. -/
theorem sequence_ranges {bytes : Bytes} (hne : bytes ≠ [])
    (h : size + State.baseSize * bytes.length ≤ sizeLimit) :
    ∃ inner c, sequence (bytes.map fun b => range b b) (.of front size) =
        some (⟨front.length, front.length + inner.length⟩,
          .of (front ++ inner ++ [.one c 0]) (size + State.baseSize * bytes.length)) ∧
      inner ++ [.one c (front.length + inner.length + 1)] = byteStates front.length bytes := by
  obtain ⟨b, rest, rfl⟩ := List.exists_cons_of_ne_nil hne
  rw [List.length_cons, Nat.mul_succ, Nat.add_comm (State.baseSize * _), ← Nat.add_assoc] at h ⊢
  have hsize : size + State.baseSize ≤ sizeLimit := Nat.le_trans (Nat.le_add_right _ _) h
  obtain ⟨inner, c, hchain, hinner⟩ := @chain_ranges front _ rest b front.length h
  refine ⟨inner, c, ?_, hinner⟩
  rw [List.map_cons, sequence, bind_eq (range_of b hsize), hchain]

/-- A piece that ends with its last state, between the states that remember its places. -/
theorem remembered_of {make : Drafting Piece} {inner : List State} {last : State}
    {index total : Nat}
    (hmake : make (.of (front ++ [.save (2 * index) 0]) (size + State.baseSize)) =
      some (⟨front.length + 1, front.length + 1 + inner.length⟩,
        .of (front ++ .save (2 * index) 0 :: (inner ++ [last])) total))
    (hlast : growth last = 0) (hsize : size + State.baseSize ≤ sizeLimit)
    (htotal : total + State.baseSize ≤ sizeLimit) :
    remembered index make (.of front size) =
      some (⟨front.length, front.length + 1 + inner.length + 1⟩,
        .of (front ++ .save (2 * index) (front.length + 1) :: (inner ++
            [linked (front.length + 1 + inner.length + 1) last, .save (2 * index + 1) 0]))
          (total + State.baseSize)) := by
  have hentry : add (.save (2 * index) 0) (.of front size) = _ := add_of hsize
  have hexit : add (.save (2 * index + 1) 0)
        (.of (front ++ .save (2 * index) 0 :: (inner ++ [last])) total) = _ := add_of htotal
  have hlength : (front ++ .save (2 * index) 0 :: (inner ++ [last])).length =
      front.length + 1 + inner.length + 1 := by
    simp only [List.length_append, List.length_cons, List.length_nil]
    omega
  rw [hlength] at hexit
  have hfirst : link front.length (front.length + 1)
      (.of (front ++ .save (2 * index) 0 :: (inner ++ [last, .save (2 * index + 1) 0]))
        (total + State.baseSize)) = _ := link_of htotal _
  have hsecond := @link_of (front ++ .save (2 * index) (front.length + 1) :: inner)
    [.save (2 * index + 1) 0] last (total + State.baseSize) (by rwa [hlast])
    (front.length + 1 + inner.length + 1)
  have hfront : (front ++ .save (2 * index) (front.length + 1) :: inner).length =
      front.length + 1 + inner.length := by
    simp only [List.length_append, List.length_cons]
    omega
  rw [hfront, hlast] at hsecond
  simp only [List.append_assoc, List.cons_append, List.nil_append] at hexit hsecond
  rw [remembered]
  refine (bind_eq hentry _).trans ((bind_eq hmake _).trans ((bind_eq hexit _).trans ?_))
  exact (bind_eq hfirst _).trans ((bind_eq hsecond _).trans rfl)

/-- The states of what may stand before a match. They lead on to `ways`. -/
def approachStates (ways : Array Nat) : List State :=
  [.fork true ways, .pass 0, .consume [⟨0, 0xFF, 1⟩]]

/-- The bytes that those states take. -/
def approachSize : Nat := 108

theorem approach_literal (backward : Bool) (bytes : Bytes) :
    approach backward (.literal bytes) {} =
      some (⟨0, 0⟩, .of (approachStates #[2]) approachSize) := by
  cases backward <;> rfl

/-- A literal whose piece ends with its last state, as a whole. -/
theorem whole_of {backward : Bool} {bytes : Bytes} {inner : List State} {last : State} {total : Nat}
    (hpiece : (if backward then expr backward (.literal bytes)
        else remembered 0 (expr backward (.literal bytes)))
          (.of (approachStates #[2]) approachSize) =
      some (⟨3, 3 + inner.length⟩, .of (approachStates #[2] ++ inner ++ [last]) total))
    (hlast : growth last = 0) (htotal : total + State.baseSize + State.numberSize ≤ sizeLimit) :
    whole backward (.literal bytes) {} =
      some (3, .of (approachStates #[2, 3] ++ (inner ++ [linked (inner.length + 4) last, .accept]))
        (total + State.baseSize + State.numberSize)) := by
  have hsize : total + State.baseSize ≤ sizeLimit := Nat.le_trans (Nat.le_add_right _ _) htotal
  have haccept : add .accept (.of (approachStates #[2] ++ inner ++ [last]) total) = _ :=
    add_of hsize
  have hlength : (approachStates #[2] ++ inner ++ [last]).length = inner.length + 4 := by
    simp only [approachStates, List.length_append, List.length_cons, List.length_nil]
    omega
  rw [hlength, List.append_assoc] at haccept
  have hexit := @link_of (approachStates #[2] ++ inner) [.accept] last (total + State.baseSize)
    (by rwa [hlast]) (inner.length + 4)
  have hfront : (approachStates #[2] ++ inner).length = 3 + inner.length := List.length_append
  rw [hfront, hlast] at hexit
  have hbefore : link 0 3 (.of (approachStates #[2] ++
      (inner ++ [linked (inner.length + 4) last, .accept])) (total + State.baseSize)) = _ :=
    @link_of [] _ (.fork true #[2]) _ htotal 3
  simp only [List.append_assoc, List.cons_append, List.nil_append] at haccept hexit hpiece
  rw [whole]
  refine (bind_eq (approach_literal backward bytes) _).trans ?_
  cases backward
  all_goals
    refine (bind_eq hpiece _).trans ((bind_eq haccept _).trans ?_)
    exact (bind_eq hexit _).trans ((bind_eq hbefore _).trans rfl)

end Drafting

/-- The states of the program of a literal. -/
def literalStates (bytes : Bytes) : List State :=
  Drafting.approachStates #[2, 3] ++ .save 0 4 ::
    (byteStates 4 bytes ++ [.save 1 (bytes.length + 5), .accept])

/-- The bytes that those states take. -/
def literalSize (bytes : Bytes) : Nat := 208 + State.baseSize * bytes.length

variable {bytes : Bytes}

/-- The bytes of a literal between the states that remember where they begin and end. -/
theorem remembered_literal (hne : bytes ≠ []) (h : literalSize bytes ≤ sizeLimit) :
    Drafting.remembered 0 (Drafting.expr false (.literal bytes))
        (.of (Drafting.approachStates #[2]) Drafting.approachSize) =
      some (⟨3, 3 + (State.save 0 4 :: byteStates 4 bytes).length⟩,
        .of (Drafting.approachStates #[2] ++ .save 0 4 :: byteStates 4 bytes ++ [.save 1 0])
          (172 + State.baseSize * bytes.length)) := by
  rw [literalSize] at h
  obtain ⟨inner, c, hliteral, hinner⟩ := @Drafting.sequence_ranges
    (Drafting.approachStates #[2] ++ [.save 0 0]) (Drafting.approachSize + State.baseSize) bytes hne
    (by change 108 + 32 + _ ≤ _; omega)
  have hnumber : (Drafting.approachStates #[2] ++ [State.save 0 0]).length = 4 := rfl
  rw [hnumber] at hinner
  have hlen : (byteStates 4 bytes).length = inner.length + 1 := by
    rw [← hinner, List.length_append]
    rfl
  rw [List.append_assoc _ inner, List.append_assoc] at hliteral
  have hpiece := @Drafting.remembered_of (Drafting.approachStates #[2]) Drafting.approachSize _
    inner (.one c 0) 0 _ hliteral rfl (by decide) (by change 108 + 32 + _ + 32 ≤ _; omega)
  have hsize : Drafting.approachSize + State.baseSize + State.baseSize * bytes.length +
      State.baseSize = 172 + State.baseSize * bytes.length := by
    change 108 + 32 + _ + 32 = _
    omega
  have hexit : 3 + (State.save 0 4 :: byteStates 4 bytes).length = 3 + 1 + inner.length + 1 := by
    rw [List.length_cons, hlen]
    omega
  rw [hsize] at hpiece
  rw [hexit, ← hinner, List.append_assoc, List.cons_append, List.append_assoc]
  exact hpiece

theorem ofExpr?_literal (hne : bytes ≠ []) (h : literalSize bytes ≤ sizeLimit) :
    Program.ofExpr? false (.literal bytes) =
      some ⟨3, (literalStates bytes).toArray, literalSize bytes⟩ := by
  have hpiece := remembered_literal hne h
  rw [literalSize] at h
  have hwhole := @Drafting.whole_of false bytes (.save 0 4 :: byteStates 4 bytes) (.save 1 0) _
    hpiece rfl (by change 172 + _ + 32 + 4 ≤ _; omega)
  have hsize : 172 + State.baseSize * bytes.length + State.baseSize + State.numberSize =
      literalSize bytes := by
    change 172 + _ + 32 + 4 = 208 + _
    omega
  rw [hsize, List.length_cons, length_byteStates] at hwhole
  rw [Program.ofExpr?, StateT.run, hwhole]
  rfl

/-- A literal that fits when it is read forward does so when it is read backward. -/
theorem isSome_ofExpr?_literal (hne : bytes ≠ []) (h : literalSize bytes ≤ sizeLimit) :
    (Program.ofExpr? true (.literal bytes)).isSome := by
  rw [literalSize, ← List.length_reverse] at h
  obtain ⟨inner, c, hliteral, -⟩ := @Drafting.sequence_ranges
    (Drafting.approachStates #[2]) Drafting.approachSize bytes.reverse (by simpa using hne)
    (by change 108 + _ ≤ _; omega)
  have hwhole := @Drafting.whole_of true bytes inner (.one c 0) _ hliteral rfl
    (by change 108 + _ + 32 + 4 ≤ _; omega)
  rw [Program.ofExpr?, StateT.run, hwhole]
  rfl

end LogFollow.Pattern
