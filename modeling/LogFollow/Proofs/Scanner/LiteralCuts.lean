import LogFollow.Proofs.Scanner.Entries

/-!
# A literal cuts a stream where it occurs

The occurrences of a literal are taken from the left, each behind the one before it. A literal that ends
entries cuts the stream behind each of them, one that begins entries cuts it before each of them, but
not at the very front. A scanner gives the pieces, whatever the reads in which the stream comes.
-/
namespace LogFollow

namespace Bytes

/-- The places where `part` stands in `data` from a place on, taken from the left: each is the first one
that does not overlap the one before it. -/
inductive Leftmost (part data : Bytes) : (start : Nat) → (places : List Nat) → Prop
  | none {start : Nat} : (∀ i, start ≤ i → ¬ OccursAt part data i) → Leftmost part data start []
  | first {start i : Nat} {places : List Nat} : FirstAt part data start i →
      Leftmost part data (i + part.length) places → Leftmost part data start (i :: places)

/-- Looks for `part` in bytes whose first one has the index `i`; the first `skip` of them belong to an
occurrence that was taken. -/
def occurrencesFrom (part : Bytes) : (skip i : Nat) → Bytes → List Nat
  | _, _, [] => []
  | skip + 1, i, _ :: rest => occurrencesFrom part skip (i + 1) rest
  | 0, i, b :: rest =>
    if part <+: b :: rest then i :: occurrencesFrom part (part.length - 1) (i + 1) rest
    else occurrencesFrom part 0 (i + 1) rest

/-- The places of the occurrences of `part` in `data`, taken from the left. -/
def occurrences (part data : Bytes) : List Nat := occurrencesFrom part 0 0 data

/-- The pieces of `data` that end at some places, from a place on, and what is left behind the last. -/
def cutAt (data : Bytes) : (start : Nat) → (places : List Nat) → List Bytes × Bytes
  | start, [] => ([], data.drop start)
  | start, place :: places =>
    (slice data start place :: (cutAt data place places).1, (cutAt data place places).2)

variable {part data : Bytes} {start i : Nat} {places : List Nat}

theorem Leftmost.of_not_occursAt (h : Leftmost part data (start + 1) places)
    (hn : ¬ OccursAt part data start) : Leftmost part data start places := by
  have hbehind : ∀ j, start ≤ j → OccursAt part data j → start + 1 ≤ j := by
    intro j hj ho
    refine Nat.lt_of_le_of_ne hj fun heq => hn ?_
    rwa [heq]
  cases h with
  | none h => exact .none fun j hj ho => h j (hbehind j hj ho) ho
  | first h hrest =>
    exact .first ⟨Nat.le_of_succ_le h.le, h.occurs, fun j hj hlt ho =>
      h.least j (hbehind j hj ho) hlt ho⟩ hrest

theorem leftmost_occurrencesFrom (hne : part ≠ []) {skip : Nat} {rest : Bytes}
    (h : data.drop i = rest) : Leftmost part data (i + skip) (occurrencesFrom part skip i rest) := by
  have hpos := List.length_pos_iff.mpr hne
  induction rest generalizing skip i with
  | nil =>
    refine .none fun j hj ho => ?_
    have hle := ho.le_length hne
    have hend := List.drop_eq_nil_iff.mp h
    omega
  | cons b rest ih =>
    have hrest : data.drop (i + 1) = rest := by
      rw [← List.tail_drop, h]
      rfl
    cases skip with
    | succ skip =>
      rw [occurrencesFrom, Nat.add_comm skip, ← Nat.add_assoc]
      exact ih hrest
    | zero =>
      rw [occurrencesFrom]
      split
      · next hp =>
        have hi : OccursAt part data i := by rwa [OccursAt, h]
        have hbehind : Leftmost part data (i + 1 + (part.length - 1)) _ := ih hrest
        rw [show i + 1 + (part.length - 1) = i + part.length by omega] at hbehind
        exact .first ⟨Nat.le_refl i, hi, fun j hj hlt => absurd hlt (Nat.not_lt.mpr hj)⟩ hbehind
      · next hp =>
        have hbehind : Leftmost part data (i + 1 + 0) (occurrencesFrom part 0 (i + 1) rest) :=
          ih hrest
        refine hbehind.of_not_occursAt fun ho => hp ?_
        rwa [OccursAt, h] at ho

/-- The places are just those that the definition asks for. -/
theorem leftmost_occurrences (hne : part ≠ []) (data : Bytes) :
    Leftmost part data 0 (occurrences part data) := by
  have hall : Leftmost part data (0 + 0) (occurrencesFrom part 0 0 data) :=
    leftmost_occurrencesFrom hne List.drop_zero
  exact hall

theorem Leftmost.start_le (h : Leftmost part data start places) : ∀ i ∈ places, start ≤ i := by
  induction h with
  | none => exact fun i hi => absurd hi List.not_mem_nil
  | first h _ ih =>
    refine List.forall_mem_cons.mpr ⟨h.le, fun j hj => ?_⟩
    exact Nat.le_trans h.le (Nat.le_trans (Nat.le_add_right _ _) (ih j hj))

end Bytes

namespace Mark

variable {mark : Mark} {m : Matcher} {part data : Bytes}

/-- Where a literal cuts a stream: directly before its occurrences other than one at the very front, or
directly behind them. -/
def cuts (part data : Bytes) : Mark → List Nat
  | first => (Bytes.occurrences part data).filter (· ≠ 0)
  | last => (Bytes.occurrences part data).map (· + part.length)

/-- The occurrences that end entries are those from the place on from which the rule looks for them. -/
theorem exists_leftmost (mark : Mark) (hne : part ≠ []) (data : Bytes) :
    ∃ places, Bytes.Leftmost part data (mark.seek part data) places ∧
      mark.cuts part data = places.map (· + mark.taken part) := by
  have hpos := List.length_pos_iff.mpr hne
  have hall := Bytes.leftmost_occurrences hne data
  cases mark with
  | last => exact ⟨_, hall, rfl⟩
  | first =>
    simp only [cuts, taken, seek, Nat.add_zero, List.map_id']
    have hkeep : ∀ {places : List Nat}, (∀ i ∈ places, 0 < i) → places.filter (· ≠ 0) = places :=
      fun h => List.filter_eq_self.mpr fun i hi => decide_eq_true (Nat.ne_of_gt (h i hi))
    generalize Bytes.occurrences part data = places at hall
    cases hall with
    | none h =>
      refine ⟨[], .none fun i _ => h i (Nat.zero_le i), rfl⟩
    | @first _ i places h hrest =>
      have hbehind : ∀ j ∈ places, 0 < j := fun j hj =>
        Nat.lt_of_lt_of_le (Nat.add_pos_right i hpos) (hrest.start_le j hj)
      split
      · next hfront =>
        have hi : i = 0 := by
          refine Nat.eq_zero_of_not_pos fun hlt => h.least 0 (Nat.le_refl 0) hlt ?_
          rwa [Bytes.OccursAt, List.drop_zero]
        subst hi
        rw [Nat.zero_add] at hrest
        exact ⟨places, hrest, hkeep hbehind⟩
      · next hfront =>
        have hi : 0 < i := by
          refine Nat.pos_of_ne_zero fun hzero => hfront ?_
          have ho := h.occurs
          rwa [hzero, Bytes.OccursAt, List.drop_zero] at ho
        exact ⟨i :: places, .first h hrest, hkeep (List.forall_mem_cons.mpr ⟨hi, hbehind⟩)⟩

/-- Behind the end of an entry the next occurrence is looked for where the last one ends. -/
theorem seek_behind (h : Bytes.OccursAt part data i) :
    i + mark.taken part + mark.seek part (data.drop (i + mark.taken part)) = i + part.length := by
  cases mark with
  | last => rfl
  | first => exact congrArg (i + ·) (if_pos h)

/-- The rule of a literal cuts at its occurrences. -/
theorem split_of_leftmost (hm : m.Marks part) {start here : Nat} {places : List Nat}
    (h : Bytes.Leftmost part data here places)
    (hhere : start + mark.seek part (data.drop start) = here) :
    (mark.framing m).split true (data.drop start) =
      data.cutAt start (places.map (· + mark.taken part)) := by
  -- after each token the same question is asked of what is behind it
  induction h generalizing start with
  | none h =>
    have hcut : (mark.framing m).cut (data.drop start) true = .needsMore := by
      refine cut_of_no_firstAt hm fun q hq => absurd (Bytes.occursAt_drop.mp hq.occurs) (h _ ?_)
      rw [← hhere]
      exact Nat.add_le_add_left hq.le start
    rw [Framing.split_needsMore hcut]
    rfl
  | @first _ i places h hrest ih =>
    subst hhere
    obtain ⟨q, rfl⟩ := Nat.exists_eq_add_of_le (Nat.le_trans (Nat.le_add_right _ _) h.le)
    have hq := Bytes.firstAt_drop_iff.mpr h
    have hslice : Bytes.slice (data.drop start) 0 (q + mark.taken part) =
        Bytes.slice data start (start + q + mark.taken part) := by
      rw [Nat.add_assoc, Bytes.slice_of_drop rfl]
      rfl
    rw [Framing.split_token (framing_stable hm) (cut_of_firstAt hm hq (.inl rfl)), List.drop_drop,
      ← Nat.add_assoc, ih (seek_behind h.occurs), hslice]
    rfl

/-- The whole stream is cut at the occurrences of the literal. -/
theorem split_eq_cutAt (hm : m.Marks part) (data : Bytes) :
    (mark.framing m).split true data = data.cutAt 0 (mark.cuts part data) := by
  obtain ⟨places, hleftmost, hcuts⟩ := mark.exists_leftmost hm.ne data
  rw [hcuts]
  exact split_of_leftmost hm hleftmost (Nat.zero_add _)

end Mark

namespace Scanner

/-- **A literal cuts a stream just where it occurs.** A scanner for a pattern that spells a text which is
not empty and fits into the look-ahead gives the pieces of its stream that lie before or behind the
occurrences of the text as tokens, and has the last piece at hand in the end, if no piece is too large.
Nothing else counts: not the reads in which the stream comes, and not those that are interrupted. -/
theorem drains_cuts {pattern text : String} (hs : Pattern.Spells pattern.toList text.toList)
    (hne : text ≠ "") (hle : (Bytes.ofString text).length ≤ Framing.patternLookahead) (mark : Mark) :
    ∃ rule, mark.compile pattern = .ok rule ∧
      ∀ (size : Nat) (source : Source) (place : Nat) (pieces : List Bytes) (last : Bytes),
        rule.Sized size →
        source.stream.cutAt 0 (mark.cuts (Bytes.ofString text) source.stream) = (pieces, last) →
        (∀ piece ∈ pieces, piece.length ≤ size) → last.length ≤ size →
        DrainsAs rule size source place pieces last := by
  obtain ⟨m, hcompile, hm⟩ := exists_marks hs hne hle
  refine ⟨mark.framing m, by rw [Mark.compile_eq, hcompile]; rfl, ?_⟩
  intro size source place pieces last hsized hcut hpieces hlast
  have hsplit : (mark.framing m).split true source.stream = (pieces, last) := by
    rw [Mark.split_eq_cutAt hm, hcut]
  have hclear : ∀ entry ∈ ((mark.framing m).split true source.stream).1,
      ¬ mark.Straddles (Bytes.ofString text) (size + Framing.patternLookahead) entry.length := by
    rw [hsplit]
    exact fun entry he => Mark.not_straddles_of_le hm.le (hpieces entry he)
  obtain ⟨t, ht, hrest, hposition⟩ := keepsEntries_of hsized hm hclear place
  rw [hsplit] at ht hrest
  rw [Mark.reports_of_le hpieces hlast] at ht
  refine ⟨t, ht, hrest.trans ?_, hposition⟩
  have hroom : ¬ size + Framing.patternLookahead ≤ last.length :=
    Nat.not_le.mpr (Nat.lt_of_le_of_lt hlast (Nat.lt_add_of_pos_right (by decide)))
  simp only [Mark.remainder, hroom, or_false]

/-- A stream in which occurrences of `aa` overlap, and are torn by the reads. -/
def doubled : Source :=
  { script := [.data [0x78, 0x61], .interrupted, .data [0x61, 0x61, 0x61], .data [0x61, 0x79]] }

theorem drains_cuts_doubled :
    ∃ rule, Mark.first.compile "aa" = .ok rule ∧
      ∃ t, Drains (new rule 4 doubled 0) [(.token [0x78], 1), (.token [0x61, 0x61], 3)] [] t ∧
        t.takeRemaining.1 = some [0x61, 0x61, 0x61, 0x79] := by
  have hspells : Pattern.Spells "aa".toList "aa".toList :=
    .plain (by decide) (.plain (by decide) .nil)
  have hcut : doubled.stream.cutAt 0 (Mark.first.cuts (Bytes.ofString "aa") doubled.stream) =
      ([[0x78], [0x61, 0x61]], [0x61, 0x61, 0x61, 0x79]) := by
    decide +kernel
  obtain ⟨rule, hrule, hdrains⟩ := drains_cuts hspells (by decide) (by decide +kernel) .first
  obtain ⟨t, ht, hrest, -⟩ :=
    hdrains 4 doubled 0 _ _ (Mark.sized_of_compile hrule (by decide)) hcut (by decide) (by decide)
  exact ⟨rule, hrule, t, ht, hrest⟩

end Scanner

end LogFollow
