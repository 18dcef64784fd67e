import LogFollow.Proofs.Mark
import LogFollow.Proofs.Scanner.Stable

/-!
# What is found of entries that a literal marks

An entry that does not fit into the buffer is thrown away one full buffer after another, and what is
left of it is passed over once the literal is found. This goes well as long as the literal at its end is
not cut: where a full buffer ends within the literal, or just so that the literal is no longer, or not
yet, taken for the end of the entry, the entry behind it is passed over too.
-/
namespace LogFollow

open Scanner (capacityOf)

namespace Mark

variable {mark : Mark} {m : Matcher} {part data : Bytes} {q : Nat}

/-! ## Entries and the buffer -/

/-- A full buffer may end between the bytes of the literal that ends an entry of some size, or so that
the literal is no longer, or not yet, taken for the end of the entry. -/
def Straddles (mark : Mark) (part : Bytes) (capacity size : Nat) : Prop :=
  ∃ k, 0 < k ∧
    match mark with
    | first => size ≤ k * capacity ∧ k * capacity < size + part.length
    | last => size < k * capacity + part.length ∧ k * capacity ≤ size

/-- The number of bytes that must be at hand behind an entry while more may come. -/
def beyond (part : Bytes) : Mark → Nat
  | first => part.length
  | last => 1

theorem beyond_le (mark : Mark) (hle : part.length ≤ Framing.patternLookahead) :
    mark.beyond part ≤ Framing.patternLookahead := by
  cases mark with
  | first => exact hle
  | last => exact Nat.succ_le_of_lt (by decide)

/-- No full buffer cuts the literal at an index: each ends before the literal begins, or holds all that
must be at hand for it to end an entry. -/
def Clear (mark : Mark) (part : Bytes) (capacity q : Nat) : Prop :=
  ∀ k, 0 < k → q + mark.ahead ≤ k * capacity → q + part.length + mark.ahead ≤ k * capacity

theorem clear_of_not_straddles {capacity : Nat}
    (h : ¬ mark.Straddles part capacity (q + mark.taken part)) : mark.Clear part capacity q := by
  cases mark with
  | first =>
    simpa only [Straddles, taken, Clear, ahead, Nat.add_zero, not_exists, not_and, Nat.not_lt] using h
  | last =>
    intro k hk hle
    refine Nat.le_of_not_lt fun hlt => h ⟨k, hk, ?_, ?_⟩
    · exact Nat.add_lt_add_right hle part.length
    · exact Nat.le_of_lt_succ hlt

/-- A literal that a full buffer does not hold begins behind it. -/
theorem Clear.lt {capacity : Nat} (h : mark.Clear part capacity q)
    (hroom : capacity < q + part.length + mark.ahead) : capacity < q + mark.ahead := by
  have hone := h 1 Nat.one_pos
  omega

/-- Full buffers end at the same places behind the first of them. -/
theorem Clear.behind {capacity : Nat} (h : mark.Clear part capacity (capacity + q)) :
    mark.Clear part capacity q := by
  intro k hk hle
  have hnext := h (k + 1) (Nat.succ_pos k)
  rw [Nat.succ_mul] at hnext
  omega

theorem sized_framing {size : Nat} (h : size + Framing.patternLookahead < Scanner.sizes) :
    (mark.framing m).Sized size := by
  rwa [Framing.Sized, lookahead_framing]

theorem sized_of_compile {pattern : String} {rule : Framing} (h : mark.compile pattern = .ok rule)
    {size : Nat} (hsize : size + Framing.patternLookahead < Scanner.sizes) : rule.Sized size := by
  obtain ⟨m, -, rfl⟩ := exists_matcher_of_compile h
  exact sized_framing hsize

section Buffer

variable {size : Nat} (hs : (mark.framing m).Sized size)

include hs

theorem capacityOf_framing :
    capacityOf (mark.framing m) size = size + Framing.patternLookahead := by
  rw [Scanner.capacityOf_of_sized hs, lookahead_framing]

/-- The literal has been found when the buffer is full, or it is not in the buffer at all. -/
theorem cut_buffer (hm : m.Marks part)
    (h : Bytes.FirstAt part data (mark.seek part data) q)
    (hroom : q + part.length + mark.ahead ≤ capacityOf (mark.framing m) size) :
    (mark.framing m).cut (data.take (capacityOf (mark.framing m) size))
        (data.length < capacityOf (mark.framing m) size) =
      .token (q + mark.taken part) ⟨0, q + mark.taken part⟩ := by
  have hpart := hm.le
  have hcap := capacityOf_framing hs
  have hend := h.occurs.le_length hm.ne
  refine cut_of_firstAt hm ?_ ?_
  · rw [seek_take mark (by omega)]
    exact (Bytes.firstAt_take hm.ne).mpr ⟨h, by omega⟩
  · rw [decide_eq_true_eq, List.length_take]
    omega

theorem cut_full_buffer (hm : m.Marks part)
    (h : Bytes.FirstAt part data (mark.seek part data) q)
    (hroom : capacityOf (mark.framing m) size < q + part.length + mark.ahead) :
    (mark.framing m).cut (data.take (capacityOf (mark.framing m) size)) false = .needsMore := by
  have hpart := hm.le
  have hcap := capacityOf_framing hs
  refine cut_of_no_firstAt hm fun q' hq' => ⟨rfl, ?_⟩
  rw [seek_take mark (by omega)] at hq'
  obtain ⟨hfirst, -⟩ := (Bytes.firstAt_take hm.ne).mp hq'
  rw [hfirst.unique h, List.length_take]
  omega

theorem cut_full_rest (hm : m.Marks part)
    (h : ∀ i, mark.seek part data ≤ i → ¬ Bytes.OccursAt part data i) :
    (mark.framing m).cut (data.take (capacityOf (mark.framing m) size)) false = .needsMore := by
  have hpart := hm.le
  have hcap := capacityOf_framing hs
  refine cut_of_no_firstAt hm fun q' hq' => ?_
  rw [seek_take mark (by omega)] at hq'
  obtain ⟨hfirst, -⟩ := (Bytes.firstAt_take hm.ne).mp hq'
  exact absurd hfirst.occurs (h q' hfirst.le)

end Buffer

/-! ## Behind an oversized entry -/

section Skipping

variable {size : Nat} (hs : (mark.framing m).Sized size)

include hs

theorem capacityOf_pos : 0 < capacityOf (mark.framing m) size := by
  rw [capacityOf_framing hs]
  exact Nat.add_pos_right _ (by decide)

/-- A full buffer in front of the literal is thrown away, and the literal is found behind it. -/
theorem found_beyond (hm : m.Marks part)
    (h : Bytes.FirstAt part data (mark.seek part data) q)
    (hclear : mark.Clear part (capacityOf (mark.framing m) size) q)
    (hroom : capacityOf (mark.framing m) size < q + part.length + mark.ahead)
    (skipping : Bool) (place : Nat) :
    ∃ i, capacityOf (mark.framing m) size + i = q ∧ 0 < i + mark.ahead ∧
      mark.Clear part (capacityOf (mark.framing m) size) i ∧
      Bytes.FirstAt part (data.drop (capacityOf (mark.framing m) size)) 0 i ∧
      (mark.framing m).found size skipping place data =
        (let behind := (mark.framing m).found size true (place + capacityOf (mark.framing m) size)
          (data.drop (capacityOf (mark.framing m) size))
        if skipping then behind
        else ((.oversized (capacityOf (mark.framing m) size),
          place + capacityOf (mark.framing m) size) :: behind.1, behind.2)) := by
  have hpart := hm.le
  have hcap := capacityOf_framing hs
  have hend := h.occurs.le_length hm.ne
  have hseek := mark.seek_le part data
  have hahead := mark.ahead_le
  have hlt := hclear.lt hroom
  obtain ⟨i, rfl⟩ : ∃ i, q = capacityOf (mark.framing m) size + i :=
    Nat.exists_eq_add_of_le (by omega)
  have hfirst := Bytes.firstAt_drop (by omega) (Nat.le_add_right _ i) h
  rw [Nat.add_sub_cancel_left] at hfirst
  exact ⟨i, rfl, by omega, hclear.behind, hfirst, Framing.found_full (capacityOf_pos hs)
    (by omega) (cut_full_buffer hs hm h hroom) skipping place⟩

/-- Inside an oversized entry the literal is found behind the full buffers that are thrown away. -/
theorem found_skipping (hm : m.Marks part) (h : Bytes.FirstAt part data 0 q)
    (hstart : 0 < q + mark.ahead)
    (hclear : mark.Clear part (capacityOf (mark.framing m) size) q) (place : Nat) :
    (mark.framing m).found size true place data =
      (mark.framing m).found size false (place + (q + mark.taken part))
        (data.drop (q + mark.taken part)) := by
  -- the literal comes nearer by a full buffer each time
  induction q using Nat.strong_induction_on generalizing data place with
  | h q ih =>
    -- what is left of an entry does not begin with the literal, or it would be the end of it
    have hseek : mark.seek part data = 0 := by
      cases mark with
      | last => rfl
      | first =>
        refine if_neg fun hfront => h.least 0 (Nat.le_refl _) hstart ?_
        rwa [Bytes.OccursAt, List.drop_zero]
    have hfirst : Bytes.FirstAt part data (mark.seek part data) q := by rwa [hseek]
    by_cases hroom : q + part.length + mark.ahead ≤ capacityOf (mark.framing m) size
    · exact Framing.found_token (framing_stable hm) (cut_buffer hs hm hfirst hroom) true place
    · obtain ⟨i, rfl, hstart, hclear, hbehind, hfound⟩ :=
        found_beyond hs hm hfirst hclear (Nat.not_le.mp hroom) true place
      rw [hfound, Nat.add_assoc, ← Nat.add_assoc place, ← List.drop_drop]
      exact ih i (Nat.lt_add_of_pos_left (capacityOf_pos hs)) hbehind hstart hclear _

/-- Where the literal does not come any more, nothing is found inside an oversized entry. -/
theorem found_skipping_rest (hm : m.Marks part) (h : ∀ i, ¬ Bytes.OccursAt part data i)
    (place : Nat) : (mark.framing m).found size true place data = ([], none) := by
  have hpos := capacityOf_pos hs
  induction hn : data.length using Nat.strong_induction_on generalizing data place with
  | h n ih =>
    subst hn
    by_cases hroom : data.length < capacityOf (mark.framing m) size
    · have hcut : (mark.framing m).cut data true = .needsMore :=
        cut_of_no_firstAt hm fun q hq => absurd hq.occurs (h q)
      rw [Framing.found_rest hroom hcut, if_pos (.inl rfl)]
    · have hcut : (mark.framing m).cut (data.take (capacityOf (mark.framing m) size)) false = _ :=
        cut_full_rest hs hm fun i _ => h i
      rw [Framing.found_full hpos (Nat.not_lt.mp hroom) hcut true place, if_pos rfl]
      refine ih _ ?_ (fun i ho => h _ (Bytes.occursAt_drop.mp ho)) _ rfl
      rw [List.length_drop]
      omega

end Skipping

/-! ## What is found -/

/-- What is reported of an entry at a place, and the place behind what is then used up. An entry that
does not fit into the buffer is reported when the buffer is full. -/
def report (mark : Mark) (part : Bytes) (size place : Nat) (entry : Bytes) : Scanned × Nat :=
  if entry.length ≤ size then (.token entry, place + entry.length)
  else if entry.length + mark.beyond part ≤ size + Framing.patternLookahead then
    (.oversized entry.length, place + entry.length)
  else
    (.oversized (size + Framing.patternLookahead), place + (size + Framing.patternLookahead))

/-- The bytes at hand for a literal that ends an entry are those of the entry and `beyond`. -/
theorem length_entry (h : Bytes.OccursAt part data q) (hne : part ≠ []) :
    (data.take (q + mark.taken part)).length = q + mark.taken part ∧
      q + mark.taken part + mark.beyond part = q + part.length + mark.ahead := by
  have hend := h.le_length hne
  have htaken := mark.taken_le part
  refine ⟨List.length_take_of_le (by omega), ?_⟩
  cases mark <;> rfl

/-- An entry that fits into the buffer is reported as it is found there. -/
theorem report_of_fits (h : Bytes.OccursAt part data q) (hne : part ≠ []) {size : Nat}
    (hroom : q + part.length + mark.ahead ≤ size + Framing.patternLookahead) (place : Nat) :
    mark.report part size place (data.take (q + mark.taken part)) =
      (Framing.itemOf size data ⟨0, q + mark.taken part⟩, place + (q + mark.taken part)) := by
  obtain ⟨hlen, hbeyond⟩ := @length_entry mark part data q h hne
  rw [report, hlen, hbeyond, if_pos hroom, Framing.itemOf]
  simp only [Span.size, Nat.sub_zero, Bytes.slice, List.drop_zero]
  by_cases hsize : q + mark.taken part ≤ size
  · rw [if_pos hsize, if_neg (Nat.not_lt.mpr hsize)]
  · rw [if_neg hsize, if_pos (Nat.not_le.mp hsize)]

theorem report_of_overflows (h : Bytes.OccursAt part data q) (hne : part ≠ []) {size : Nat}
    (hle : part.length ≤ Framing.patternLookahead)
    (hroom : size + Framing.patternLookahead < q + part.length + mark.ahead) (place : Nat) :
    mark.report part size place (data.take (q + mark.taken part)) =
      (.oversized (size + Framing.patternLookahead), place + (size + Framing.patternLookahead)) := by
  obtain ⟨hlen, hbeyond⟩ := @length_entry mark part data q h hne
  have hsmall := mark.beyond_le hle
  rw [report, hlen, hbeyond, if_neg (by omega), if_neg (Nat.not_le.mpr hroom)]

/-- What is reported of entries and of what is left behind them. -/
def reports (mark : Mark) (part : Bytes) (size : Nat) : (place : Nat) → (entries : List Bytes) →
    (rest : Bytes) → List (Scanned × Nat)
  | place, [], rest =>
    if size + Framing.patternLookahead ≤ rest.length then
      [(.oversized (size + Framing.patternLookahead), place + (size + Framing.patternLookahead))]
    else []
  | place, entry :: entries, rest =>
    mark.report part size place entry ::
      reports mark part size (place + entry.length) entries rest

/-- What is at hand in the end of what is left behind the entries. -/
def remainder (size : Nat) (rest : Bytes) : Option Bytes :=
  if rest = [] ∨ size + Framing.patternLookahead ≤ rest.length then none else some rest

section Found

variable {size : Nat}

/-- The first entry is reported, and what comes behind it is found as if it stood alone. -/
theorem found_entry (hs : (mark.framing m).Sized size) (hm : m.Marks part)
    (h : Bytes.FirstAt part data (mark.seek part data) q)
    (hclear : ¬ mark.Straddles part (size + Framing.patternLookahead) (q + mark.taken part))
    (place : Nat) :
    (mark.framing m).found size false place data =
      (mark.report part size place (data.take (q + mark.taken part)) ::
          ((mark.framing m).found size false (place + (q + mark.taken part))
            (data.drop (q + mark.taken part))).1,
        ((mark.framing m).found size false (place + (q + mark.taken part))
          (data.drop (q + mark.taken part))).2) := by
  have hcap := capacityOf_framing hs
  have hclear := clear_of_not_straddles hclear
  rw [← hcap] at hclear
  by_cases hroom : q + part.length + mark.ahead ≤ capacityOf (mark.framing m) size
  · rw [Framing.found_token (framing_stable hm) (cut_buffer hs hm h hroom) false place,
      report_of_fits h.occurs hm.ne (hcap ▸ hroom)]
    rfl
  · have hfull := Nat.not_le.mp hroom
    rw [report_of_overflows h.occurs hm.ne hm.le (hcap ▸ hfull), ← hcap]
    obtain ⟨i, rfl, hstart, hclear, hbehind, hfound⟩ :=
      found_beyond hs hm h hclear hfull false place
    rw [hfound, found_skipping hs hm hbehind hstart hclear, List.drop_drop, Nat.add_assoc place,
      ← Nat.add_assoc _ i]
    rfl

/-- What comes behind the last entry is at hand in the end, unless it fills the buffer. -/
theorem found_no_entry (hs : (mark.framing m).Sized size) (hm : m.Marks part)
    (h : ∀ i, mark.seek part data ≤ i → ¬ Bytes.OccursAt part data i) (place : Nat) :
    (mark.framing m).found size false place data =
      (mark.reports part size place [] data, remainder size data) := by
  have hpos := capacityOf_pos hs
  have hpart := hm.le
  have hcap := capacityOf_framing hs
  rw [reports, remainder, ← hcap]
  by_cases hroom : data.length < capacityOf (mark.framing m) size
  · have hcut : (mark.framing m).cut data true = .needsMore :=
      cut_of_no_firstAt hm fun q hq => absurd hq.occurs (h q hq.le)
    rw [Framing.found_rest hroom hcut, if_neg (Nat.not_le.mpr hroom)]
    simp only [Bool.false_eq_true, false_or, Nat.not_le.mpr hroom, or_false]
  · have hfull := Nat.not_lt.mp hroom
    have hcut : (mark.framing m).cut (data.take (capacityOf (mark.framing m) size)) false = _ :=
      cut_full_rest hs hm h
    have hseek := mark.seek_le part data
    have hrest : ∀ i, ¬ Bytes.OccursAt part (data.drop (capacityOf (mark.framing m) size)) i :=
      fun i ho => h _ (by omega) (Bytes.occursAt_drop.mp ho)
    rw [Framing.found_full hpos hfull hcut false place, if_neg (by decide),
      found_skipping_rest hs hm hrest, if_pos hfull, if_pos (.inr hfull)]

/-- **What is found are the entries**, if none of them straddles the end of a full buffer. -/
theorem found_entries (hs : (mark.framing m).Sized size) (hm : m.Marks part) (data : Bytes)
    (hclear : ∀ entry ∈ ((mark.framing m).split true data).1,
      ¬ mark.Straddles part (size + Framing.patternLookahead) entry.length) (place : Nat) :
    (mark.framing m).found size false place data =
      (mark.reports part size place ((mark.framing m).split true data).1
          ((mark.framing m).split true data).2,
        remainder size ((mark.framing m).split true data).2) := by
  induction hn : data.length using Nat.strong_induction_on generalizing data place with
  | h n ih =>
    subst hn
    rcases Bytes.exists_firstAt part data (mark.seek part data) with ⟨q, hq⟩ | hnone
    · have hsplit := Framing.split_token (framing_stable hm)
        (cut_of_firstAt hm hq (.inl rfl))
      have hslice : Bytes.slice data 0 (q + mark.taken part) = data.take (q + mark.taken part) := rfl
      have hend := hq.occurs.le_length hm.ne
      have htaken := mark.taken_le part
      have hlen : (data.take (q + mark.taken part)).length = q + mark.taken part :=
        List.length_take_of_le (by omega)
      rw [hslice] at hsplit
      rw [hsplit] at hclear ⊢
      have hpos := pos_of_firstAt hm.ne hq
      rw [found_entry hs hm hq (hlen ▸ hclear _ List.mem_cons_self) place,
        ih _ (by rw [List.length_drop]; omega) _
          (fun entry he => hclear entry (List.mem_cons_of_mem _ he)) _ rfl, reports, hlen]
    · have hcut : (mark.framing m).cut data true = .needsMore :=
        cut_of_no_firstAt hm fun q hq => absurd hq.occurs (hnone q hq.le)
      rw [Framing.split_needsMore hcut]
      exact found_no_entry hs hm hnone place

theorem length_le_length_reports (place : Nat) (entries : List Bytes) (rest : Bytes) :
    entries.length ≤ (mark.reports part size place entries rest).length := by
  induction entries generalizing place with
  | nil => exact Nat.zero_le _
  | cons entry entries ih =>
    rw [reports, List.length_cons, List.length_cons]
    exact Nat.succ_le_succ (ih _)

/-- Entries as tokens, with the places behind them. -/
def tokensFrom : (place : Nat) → (entries : List Bytes) → List (Scanned × Nat)
  | _, [] => []
  | place, entry :: entries =>
    (.token entry, place + entry.length) :: tokensFrom (place + entry.length) entries

theorem reports_of_le {entries : List Bytes} {rest : Bytes}
    (h : ∀ entry ∈ entries, entry.length ≤ size) (hr : rest.length ≤ size) (place : Nat) :
    mark.reports part size place entries rest = tokensFrom place entries := by
  induction entries generalizing place with
  | nil =>
    have hpos : 0 < Framing.patternLookahead := by decide
    rw [reports, if_neg (by omega), tokensFrom]
  | cons entry entries ih =>
    rw [reports, report, if_pos (h entry List.mem_cons_self), tokensFrom,
      ih fun e he => h e (List.mem_cons_of_mem entry he)]

/-- No entry straddles the end of a buffer that all bytes fit into. -/
theorem not_straddles_of_le (hle : part.length ≤ Framing.patternLookahead)
    {entry : Bytes} (h : entry.length ≤ size) :
    ¬ mark.Straddles part (size + Framing.patternLookahead) entry.length := by
  rintro ⟨k, hk, hstraddles⟩
  have hpos : 0 < Framing.patternLookahead := by decide
  have hcap := Nat.le_mul_of_pos_left (size + Framing.patternLookahead) hk
  cases mark with
  | first =>
    obtain ⟨-, hlt⟩ := hstraddles
    omega
  | last =>
    obtain ⟨-, hlt⟩ := hstraddles
    omega

end Found

end Mark

end LogFollow
