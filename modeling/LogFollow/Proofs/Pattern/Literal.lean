import LogFollow.Compile
import LogFollow.Proofs.Bytes
import LogFollow.Proofs.Occurrences
import LogFollow.Proofs.Pattern.Chain
import LogFollow.Proofs.Pattern.Spelling

/-!
# A literal is found where it stands

A search for a literal has one way open for each place at which the bytes before it began, and still
may begin, with the literal; the ways are in the order of those places. A way comes to its end as soon
as the literal is complete. As it was opened before all others, the search ends there: it finds the
first occurrence of the literal.
-/
namespace LogFollow.Pattern

/-- The search for a literal, of which only the place is asked for. -/
def literalSearch (bytes : Bytes) : Search :=
  { program := ⟨3, (literalStates bytes).toArray, literalSize bytes⟩
    slotBound := some 1
    scalarsOnly := false }

namespace Search

variable {bytes seen rest : Bytes} {b : UInt8}

/-! ## The states -/

theorem state_three (bytes : Bytes) :
    (literalSearch bytes).program.states[3]? = some (.save 0 4) := rfl

theorem literalStates_behind (bytes : Bytes) (i : Nat) :
    (literalSearch bytes).program.states[i + 4]? =
      (byteStates 4 bytes ++ [.save 1 (bytes.length + 5), .accept])[i]? := by
  simp [literalSearch, literalStates, Drafting.approachStates]

theorem state_one {i : Nat} (h : bytes[i]? = some b) :
    (literalSearch bytes).program.states[i + 4]? = some (.one b (i + 5)) := by
  have hi := (List.getElem?_eq_some_iff.mp h).1
  rw [literalStates_behind, List.getElem?_append_left (by rwa [length_byteStates]),
    getElem?_byteStates, h, Option.map_some]
  congr 2
  omega

theorem state_stop (bytes : Bytes) :
    (literalSearch bytes).program.states[bytes.length + 4]? =
      some (.save 1 (bytes.length + 5)) := by
  rw [literalStates_behind, List.getElem?_append_right (by rw [length_byteStates]),
    length_byteStates, Nat.sub_self]
  rfl

theorem state_accept (bytes : Bytes) :
    (literalSearch bytes).program.states[bytes.length + 5]? = some .accept := by
  rw [Nat.add_right_comm _ 1 4, literalStates_behind,
    List.getElem?_append_right (by rw [length_byteStates]; omega), length_byteStates,
    Nat.add_sub_cancel_left]
  rfl

/-! ## The ways at a place -/

/-- The ways of a search that began at `start` and has seen some bytes: one for each end of these bytes
that is the beginning of the literal. -/
def ways (bytes : Bytes) : (start : Nat) → (seen : Bytes) → List Thread
  | _, [] => []
  | start, b :: rest =>
    if b :: rest <+: bytes then ⟨rest.length + 5, [(0, start)]⟩ :: ways bytes (start + 1) rest
    else ways bytes (start + 1) rest

/-- The way that is opened at a place. -/
def newWay (start : Nat) (seen : Bytes) : Thread := ⟨4, [(0, start + seen.length)]⟩

/-- The state of a way tells how much of the literal it has seen. -/
theorem state_of_mem_ways {start : Nat} {t : Thread} (h : t ∈ ways bytes start seen) :
    ∃ n, 0 < n ∧ n ≤ seen.length ∧ n ≤ bytes.length ∧ t.state = n + 4 := by
  induction seen generalizing start with
  | nil => cases h
  | cons b rest ih =>
    rw [List.length_cons]
    have hothers : t ∈ ways bytes (start + 1) rest →
        ∃ n, 0 < n ∧ n ≤ rest.length + 1 ∧ n ≤ bytes.length ∧ t.state = n + 4 := by
      intro h
      obtain ⟨n, hpos, hle, hlen, hstate⟩ := ih h
      exact ⟨n, hpos, by omega, hlen, hstate⟩
    rw [ways] at h
    split at h
    · next hfront =>
      rcases List.mem_cons.mp h with rfl | h
      · exact ⟨rest.length + 1, by omega, Nat.le_refl _, hfront.length_le, rfl⟩
      · exact hothers h
    · exact hothers h

/-- A way that was opened earlier stands further on. -/
theorem pairwise_ways (bytes : Bytes) (start : Nat) (seen : Bytes) :
    (ways bytes start seen).Pairwise fun t u => u.state < t.state := by
  induction seen generalizing start with
  | nil => exact .nil
  | cons b rest ih =>
    rw [ways]
    split
    · refine .cons (fun t ht => ?_) (ih _)
      obtain ⟨n, -, hle, -, hstate⟩ := state_of_mem_ways ht
      rw [hstate]
      change n + 4 < rest.length + 5
      omega
    · exact ih _

/-- Where the bytes seen end with the literal, the first way has come to its end. -/
theorem ways_of_suffix (h : bytes <:+ seen) (hne : bytes ≠ []) (start : Nat) :
    ∃ j more, seen.length = j + bytes.length ∧
      ways bytes start seen = ⟨bytes.length + 4, [(0, start + j)]⟩ :: more := by
  induction seen generalizing start with
  | nil => exact absurd (List.suffix_nil.mp h) hne
  | cons b rest ih =>
    rcases List.suffix_cons_iff.mp h with rfl | hrest
    · refine ⟨0, ways (b :: rest) (start + 1) rest, by omega, ?_⟩
      rw [ways, if_pos (List.prefix_refl _)]
      rfl
    · obtain ⟨j, more, hlen, hways⟩ := ih hrest (start + 1)
      refine ⟨j + 1, more, by rw [List.length_cons]; omega, ?_⟩
      rw [ways, if_neg (fun hp => by have := hp.length_le; rw [List.length_cons] at this; omega),
        hways, Nat.add_assoc, Nat.add_comm 1 j]

/-- Otherwise none has. -/
theorem state_lt_of_mem_ways (h : ¬ bytes <:+ seen) {start : Nat} {t : Thread}
    (ht : t ∈ ways bytes start seen) : t.state < bytes.length + 4 := by
  induction seen generalizing start with
  | nil => cases ht
  | cons b rest ih =>
    have hrest : ¬ bytes <:+ rest := fun hs => h (List.suffix_cons_iff.mpr (.inr hs))
    rw [ways] at ht
    split at ht
    · next hfront =>
      rcases List.mem_cons.mp ht with rfl | ht
      · have hlt : (b :: rest).length < bytes.length :=
          Nat.lt_of_le_of_ne hfront.length_le fun heq =>
            h (hfront.eq_of_length heq ▸ List.suffix_refl _)
        rw [List.length_cons] at hlt
        change rest.length + 5 < bytes.length + 4
        omega
      · exact ih hrest ht
    · exact ih hrest ht

/-- A way that is not at its end goes on with the next byte of the literal. -/
theorem consume_way {front : Bytes} (hp : front <+: bytes) (hlt : front.length < bytes.length)
    (slots : Slots) :
    (literalSearch bytes).consume b ⟨front.length + 4, slots⟩ =
      if front ++ [b] <+: bytes then some ⟨front.length + 5, slots⟩ else none := by
  obtain ⟨back, rfl⟩ := hp
  cases back with
  | nil => rw [List.append_nil] at hlt; omega
  | cons c back =>
    have hc : (front ++ c :: back)[front.length]? = some c := by simp
    have hle : (c ≤ b ∧ b ≤ c) ↔ b = c :=
      ⟨fun h => UInt8.le_antisymm h.2 h.1, fun h => h ▸ ⟨UInt8.le_refl _, UInt8.le_refl _⟩⟩
    rw [consume, state_one hc]
    simp only [State.one, Option.bind_some, after?, Bool.and_eq_true, decide_eq_true_eq, hle,
      List.prefix_append_right_inj, List.cons_prefix_cons, List.nil_prefix, and_true]
    split <;> rfl

/-- The next byte leaves the ways open whose bytes still are the beginning of the literal. -/
theorem ways_consume (hne : bytes ≠ []) (h : ¬ bytes <:+ seen) (b : UInt8) (start : Nat) :
    (ways bytes start seen ++ [newWay start seen]).filterMap ((literalSearch bytes).consume b) =
      ways bytes start (seen ++ [b]) := by
  induction seen generalizing start with
  | nil =>
    have hpos := List.length_pos_of_ne_nil hne
    have hnew := @consume_way bytes b [] (List.nil_prefix) hpos [(0, start)]
    simp only [List.length_nil, Nat.zero_add, List.nil_append] at hnew
    simp only [ways, List.nil_append, newWay, List.length_nil, Nat.add_zero, List.filterMap_cons,
      List.filterMap_nil, hnew]
    by_cases hb : [b] <+: bytes
    · rw [if_pos hb, if_pos hb]
    · rw [if_neg hb, if_neg hb]
  | cons a rest ih =>
    have hrest : ¬ bytes <:+ rest := fun hs => h (List.suffix_cons_iff.mpr (.inr hs))
    have ih := ih hrest (start + 1)
    have hnew : newWay (start + 1) rest = newWay start (a :: rest) := by
      rw [newWay, newWay, List.length_cons]
      congr 3
      omega
    rw [hnew] at ih
    rw [List.cons_append, ways, ways]
    by_cases hp : a :: rest <+: bytes
    · have hlt : (a :: rest).length < bytes.length :=
        Nat.lt_of_le_of_ne hp.length_le fun heq => h (hp.eq_of_length heq ▸ List.suffix_refl _)
      have hway := @consume_way bytes b (a :: rest) hp hlt [(0, start)]
      rw [List.length_cons, Nat.add_right_comm] at hway
      rw [if_pos hp, List.cons_append, List.filterMap_cons, ih, hway, List.cons_append]
      by_cases hb : a :: (rest ++ [b]) <+: bytes
      · rw [if_pos hb, if_pos hb, List.length_append]
        rfl
      · rw [if_neg hb, if_neg hb]
    · have hlonger : ¬ a :: (rest ++ [b]) <+: bytes := fun hl =>
        hp ((List.prefix_append (a :: rest) [b]).trans hl)
      rw [if_neg hp, if_neg hlonger, ih]

/-! ## Gathering the ways -/

/-- What was reached so far: at places up to `index`, and at the next count only the given states. -/
def Marked (reached : Array Nat) (index : Nat) (states : List Nat) : Prop :=
  ∀ k v, reached[k]? = some v → v ≤ index ∨ v = index + 1 ∧ k ∈ states

theorem Marked.fresh {reached : Array Nat} {index : Nat} {states : List Nat} {k : Nat}
    (h : Marked reached index states) (hk : k ∉ states) : reached[k]? ≠ some (index + 1) := by
  intro heq
  rcases h k _ heq with hle | ⟨-, hmem⟩
  · omega
  · exact hk hmem

theorem Marked.set {reached : Array Nat} {index : Nat} {states : List Nat}
    (h : Marked reached index states) (k : Nat) :
    Marked (reached.set! k (index + 1)) index (k :: states) := by
  intro j v hv
  rw [Array.set!_eq_setIfInBounds, Array.getElem?_setIfInBounds] at hv
  split at hv
  · next heq =>
    subst heq
    split at hv
    · exact .inr ⟨(Option.some.inj hv).symm, List.mem_cons_self⟩
    · cases hv
  · exact (h j v hv).imp_right fun ⟨hv, hj⟩ => ⟨hv, List.mem_cons_of_mem k hj⟩

/-- Behind a place nothing is reached yet. -/
theorem Marked.next {reached : Array Nat} {index : Nat} {states : List Nat}
    (h : Marked reached index states) : Marked reached (index + 1) [] := by
  intro k v hv
  rcases h k v hv with hle | ⟨rfl, -⟩
  · exact .inl (by omega)
  · exact .inl (Nat.le_refl _)

variable {s : Search} {place : Place} {g : Gathered} {t : Thread} {pending : List Thread}
  {states : List Nat}

theorem follow_nil (s : Search) (place : Place) (fuel : Nat) (g : Gathered) :
    s.follow place fuel [] g = g := by
  cases fuel <;> rfl

/-- A way that has to consume a byte is ready. -/
theorem follow_one {next : Nat} (h : s.program.states[t.state]? = some (.one b next))
    (hm : Marked g.reached place.index states) (ht : t.state ∉ states) (fuel : Nat) :
    s.follow place (fuel + 1) (t :: pending) g =
      s.follow place fuel pending
        { g with reached := g.reached.set! t.state (place.index + 1), ready := t :: g.ready } := by
  rw [follow, if_neg (hm.fresh ht)]
  simp only [h, State.one]

/-- A way goes on behind a state that remembers the place. -/
theorem follow_save {slot next : Nat} (h : s.program.states[t.state]? = some (.save slot next))
    (hm : Marked g.reached place.index states) (ht : t.state ∉ states) (fuel : Nat) :
    s.follow place (fuel + 1) (t :: pending) g =
      s.follow place fuel
        (⟨next, if s.keeps slot then t.slots.put slot place.index else t.slots⟩ :: pending)
        { g with reached := g.reached.set! t.state (place.index + 1) } := by
  rw [follow, if_neg (hm.fresh ht)]
  simp only [h]

/-- A way that has come to its end ends the others. -/
theorem follow_accept (h : s.program.states[t.state]? = some .accept)
    (hm : Marked g.reached place.index states) (ht : t.state ∉ states) (fuel : Nat) :
    s.follow place (fuel + 1) (t :: pending) g =
      { g with reached := g.reached.set! t.state (place.index + 1), found := some t.slots } := by
  rw [follow, if_neg (hm.fresh ht)]
  simp only [h]

/-- Ways that have to consume a byte, each at a state of its own, are ready. -/
theorem follow_ways {threads : List Thread}
    (hone : ∀ t ∈ threads, ∃ b next, s.program.states[t.state]? = some (.one b next))
    (hdistinct : threads.Pairwise fun t u => u.state < t.state)
    (hm : Marked g.reached place.index states) (hnew : ∀ t ∈ threads, t.state ∉ states)
    (fuel : Nat) :
    ∃ reached, Marked reached place.index ((threads.map (·.state)).reverse ++ states) ∧
      s.follow place (threads.length + fuel) (threads ++ pending) g =
        s.follow place fuel pending
          { g with reached, ready := threads.reverse ++ g.ready } := by
  induction threads generalizing g states with
  | nil => exact ⟨g.reached, hm, by rw [List.length_nil, Nat.zero_add]; rfl⟩
  | cons t threads ih =>
    obtain ⟨hlater, hdistinct⟩ := List.pairwise_cons.mp hdistinct
    obtain ⟨b, next, ht⟩ := hone t List.mem_cons_self
    have hthis := hnew t List.mem_cons_self
    obtain ⟨reached, hreached, hfollow⟩ := @ih
      { g with reached := g.reached.set! t.state (place.index + 1), ready := t :: g.ready }
      (t.state :: states) (fun u hu => hone u (List.mem_cons_of_mem t hu)) hdistinct
      (hm.set t.state) (fun u hu hmem => by
        rcases List.mem_cons.mp hmem with heq | hmem
        · exact absurd heq (Nat.ne_of_lt (hlater u hu))
        · exact hnew u (List.mem_cons_of_mem t hu) hmem)
    refine ⟨reached, ?_, ?_⟩
    · simpa using hreached
    · rw [List.length_cons, Nat.add_right_comm, List.cons_append, follow_one ht hm hthis, hfollow]
      simp

/-- A search without a match opens a way behind those that are open. -/
theorem gather_literal (bytes : Bytes) (place : Place) (threads : List Thread)
    (reached : Array Nat) :
    (literalSearch bytes).gather place threads reached none =
      (literalSearch bytes).follow place (threads.length + (literalSize bytes + 2))
        (threads ++ [⟨3, []⟩]) { reached } := by
  have hfuel : (literalSearch bytes).fuel (threads ++ [⟨3, []⟩]) =
      threads.length + (literalSize bytes + 2) := by
    rw [fuel, List.length_append, List.length_singleton]
    change literalSize bytes + _ + 1 = _
    omega
  rw [← hfuel]
  rfl

/-- Where the bytes seen do not end with the literal, all ways go on and a new one is opened. -/
theorem gather_ways {start : Nat} {reached : Array Nat} (hne : bytes ≠ []) (h : ¬ bytes <:+ seen)
    (hindex : place.index = start + seen.length) (hm : Marked reached place.index []) :
    ∃ reached', Marked reached' (place.index + 1) [] ∧
      (literalSearch bytes).gather place (ways bytes start seen) reached none =
        ⟨reached', (ways bytes start seen ++ [newWay start seen]).reverse, none⟩ := by
  have hone : ∀ t ∈ ways bytes start seen,
      ∃ b next, (literalSearch bytes).program.states[t.state]? = some (.one b next) := by
    intro t ht
    obtain ⟨n, -, -, -, hstate⟩ := state_of_mem_ways ht
    have hlt := state_lt_of_mem_ways h ht
    rw [hstate] at hlt ⊢
    exact ⟨_, _, state_one (List.getElem?_eq_getElem (by omega : n < bytes.length))⟩
  obtain ⟨reached₁, hm₁, hfollow⟩ := @follow_ways (literalSearch bytes) place { reached }
    [⟨3, []⟩] [] (ways bytes start seen) hone (pairwise_ways bytes start seen) hm
    (fun _ _ => List.not_mem_nil) (literalSize bytes + 2)
  have hlow : ∀ k < 5, k ∉ ((ways bytes start seen).map (·.state)).reverse ++ [] := by
    intro k hk hmem
    rw [List.append_nil, List.mem_reverse] at hmem
    obtain ⟨t, ht, rfl⟩ := List.mem_map.mp hmem
    obtain ⟨n, hpos, -, -, hstate⟩ := state_of_mem_ways ht
    omega
  have hfour : 4 ∉ 3 :: (((ways bytes start seen).map (·.state)).reverse ++ []) := by
    rw [List.mem_cons, not_or]
    exact ⟨by decide, hlow 4 (by decide)⟩
  have hnew : newWay start seen = ⟨4, Slots.put [] 0 place.index⟩ := by
    rw [newWay, hindex]
    rfl
  have hfirst : ∃ b, bytes[0]? = some b :=
    ⟨_, List.getElem?_eq_getElem (List.length_pos_of_ne_nil hne)⟩
  obtain ⟨b, hb⟩ := hfirst
  refine ⟨_, ((hm₁.set 3).set 4).next, ?_⟩
  rw [gather_literal, hfollow, follow_save (state_three bytes) hm₁ (hlow 3 (by decide)), hnew,
    List.reverse_append]
  refine (follow_one (t := ⟨4, Slots.put [] 0 place.index⟩) (state_one hb) (hm₁.set 3) hfour
    _).trans ?_
  simp only [follow_nil, List.append_nil, List.reverse_singleton, List.singleton_append]

/-- Where they do, the search ends. -/
theorem gather_end {start : Nat} {reached : Array Nat} (hne : bytes ≠ []) (h : bytes <:+ seen)
    (hm : Marked reached place.index []) :
    ∃ j reached', seen.length = j + bytes.length ∧
      (literalSearch bytes).gather place (ways bytes start seen) reached none =
        ⟨reached', [], some [(0, start + j)]⟩ := by
  obtain ⟨j, more, hlen, hways⟩ := ways_of_suffix h hne start
  have hother : bytes.length + 5 ∉ [bytes.length + 4] := by simp
  refine ⟨j, (reached.set! (bytes.length + 4) (place.index + 1)).set! (bytes.length + 5)
    (place.index + 1), hlen, ?_⟩
  rw [gather_literal, hways, List.cons_append, ← Nat.add_assoc,
    follow_save (state_stop bytes) hm List.not_mem_nil]
  exact follow_accept (state_accept bytes) (hm.set _) hother _

/-! ## Searching -/

/-- What a search finds in bytes: the first occurrence of the literal, if there is one. -/
inductive Outcome (bytes : Bytes) (start : Nat) (data : Bytes) : Option (Slots × Nat) → Prop
  | found {j : Nat} : Bytes.FirstAt bytes data 0 j →
      Outcome bytes start data (some ([(0, start + j)], start + (j + bytes.length)))
  | missing : (∀ j, ¬ Bytes.OccursAt bytes data j) → Outcome bytes start data none

/-- The search goes on as long as the bytes seen do not end with the literal. -/
theorem run_literal (hne : bytes ≠ []) (rest seen before : Bytes) (start : Nat)
    (reached : Array Nat) (hm : Marked reached (start + seen.length) [])
    (hnone : ∀ j, j + bytes.length < seen.length → ¬ Bytes.OccursAt bytes seen j) :
    Outcome bytes start (seen ++ rest)
      ((literalSearch bytes).run before (start + seen.length) (ways bytes start seen) reached none
        rest) := by
  -- the ways are those of the bytes seen, and no occurrence has ended before the last of these
  induction rest generalizing seen before reached with
  | nil =>
    rw [run, List.append_nil]
    by_cases h : bytes <:+ seen
    · obtain ⟨j, reached', hlen, hgather⟩ := @gather_end bytes seen
        ⟨start + seen.length, before, []⟩ start reached hne h hm
      have hfirst := Bytes.firstAt_of_suffix hne h hlen hnone []
      rw [List.append_nil] at hfirst
      rw [hgather, hlen]
      exact .found hfirst
    · obtain ⟨reached', -, hgather⟩ := @gather_ways bytes seen
        ⟨start + seen.length, before, []⟩ start reached hne h rfl hm
      rw [hgather]
      exact .missing (Bytes.not_occursAt_of_not_suffix hne h hnone)
  | cons b rest ih =>
    rw [run]
    by_cases h : bytes <:+ seen
    · obtain ⟨j, reached', hlen, hgather⟩ := @gather_end bytes seen
        ⟨start + seen.length, before, b :: rest⟩ start reached hne h hm
      rw [hgather, hlen]
      exact .found (Bytes.firstAt_of_suffix hne h hlen hnone (b :: rest))
    · obtain ⟨reached', hm', hgather⟩ := @gather_ways bytes seen
        ⟨start + seen.length, before, b :: rest⟩ start reached hne h rfl hm
      have hlen : start + (seen ++ [b]).length = start + seen.length + 1 := by
        rw [List.length_append]
        rfl
      have hih := ih (seen ++ [b]) (b :: before) reached' (hlen ▸ hm') (by
        intro j hj ho
        rw [List.length_append, List.length_singleton] at hj
        rw [Bytes.occursAt_append hne (by omega)] at ho
        exact Bytes.not_occursAt_of_not_suffix hne h hnone j ho)
      rw [hlen, List.append_assoc] at hih
      rw [hgather]
      simp only [List.reverse_reverse, ways_consume hne h]
      simpa using hih

/-- A search finds the first occurrence of the literal behind the place where it begins. -/
theorem first?_literal (hne : bytes ≠ []) {start : Nat} (h : start ≤ rest.length) :
    Outcome bytes start (rest.drop start) ((literalSearch bytes).first? rest start) := by
  have hreaches : (!rest.reaches start) = false := by
    rw [(Bytes.reaches_iff rest start).mpr h]
    rfl
  have hm : Marked (Array.replicate (literalSearch bytes).program.states.size 0) start [] := by
    intro k v hv
    rw [Array.getElem?_replicate] at hv
    split at hv
    · exact .inl ((Option.some.inj hv) ▸ Nat.zero_le _)
    · cases hv
  rw [first?, if_neg (by rw [hreaches]; decide)]
  exact run_literal hne (rest.drop start) [] _ start _ hm (fun _ hj => absurd hj (by simp))

end Search

variable {bytes : Bytes}

/-- A compiled literal finds its first occurrence from a place on, if there is one. -/
theorem find?_literal (hne : bytes ≠ []) (pattern : String) (names : List (Option String))
    (data : Bytes) (start : Nat) :
    (∃ i, Bytes.FirstAt bytes data start i ∧
      (Regex.mk pattern names (literalSearch bytes)).find? data start =
        some ⟨i, i + bytes.length⟩) ∨
    (∀ i, start ≤ i → ¬ Bytes.OccursAt bytes data i) ∧
      (Regex.mk pattern names (literalSearch bytes)).find? data start = none := by
  rw [Regex.find?]
  by_cases h : start ≤ data.length
  · have ho := Search.first?_literal hne h
    generalize (literalSearch bytes).first? data start = result at ho
    cases ho with
    | @found j hj =>
      refine .inl ⟨start + j, Bytes.firstAt_drop_iff.mp hj, ?_⟩
      rw [Nat.add_assoc]
      rfl
    | missing hnone =>
      refine .inr ⟨fun i hi ho => hnone (i - start) (Bytes.occursAt_drop.mpr ?_), rfl⟩
      rwa [Nat.add_sub_cancel' hi]
  · refine .inr ⟨fun i hi ho => ?_, ?_⟩
    · have hle := ho.le_length hne
      omega
    · have hreaches : (!data.reaches start) = true := by
        rw [Bool.not_eq_true', ← Bool.not_eq_true, Bytes.reaches_iff]
        exact h
      rw [Search.first?, if_pos hreaches]
      rfl

end LogFollow.Pattern

namespace LogFollow.Framing

open Pattern

/-- **A pattern that spells a text is a matcher that finds the text**, unless it is too long. -/
theorem matcher_spells {pattern text : String} (h : Spells pattern.toList text.toList)
    (hne : text ≠ "") (hsize : literalSize (Bytes.ofString text) ≤ sizeLimit) :
    ∃ m, matcher pattern = .ok m ∧ m.Finds (Bytes.ofString text) := by
  have hbytes := Bytes.ofString_ne_nil hne
  obtain ⟨program, hbackward⟩ := Option.isSome_iff_exists.mp (isSome_ofExpr?_literal hbytes hsize)
  have hcompile : Regex.compile ⟨false, true⟩ false pattern =
      .ok ⟨pattern, [], literalSearch (Bytes.ofString text)⟩ := by
    rw [Regex.compile, parse_spells h hne]
    simp only [ofExpr?_literal hbytes hsize, hbackward]
    rfl
  refine ⟨.ofRegex ⟨pattern, [], literalSearch (Bytes.ofString text)⟩, ?_, ?_, ?_⟩
  · rw [matcher, hcompile]
  · intro data start span hfind
    rcases find?_literal hbytes pattern [] data start with ⟨i, hi, heq⟩ | ⟨-, heq⟩
    · obtain rfl := Option.some.inj (heq.symm.trans hfind)
      exact ⟨hi, rfl⟩
    · cases heq.symm.trans hfind
  · intro data start hfind
    rcases find?_literal hbytes pattern [] data start with ⟨i, -, heq⟩ | ⟨hnone, -⟩
    · cases heq.symm.trans hfind
    · exact hnone

end LogFollow.Framing
