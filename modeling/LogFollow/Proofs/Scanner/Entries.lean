import LogFollow.Proofs.Pattern.Literal
import LogFollow.Proofs.Scanner.Marked

/-!
# The scanner finds the entries that a literal marks

A scanner for a pattern that spells a text finds one item for each entry, whatever the pieces of its
stream, if no entry straddles the end of a full buffer. An entry of just the size of a full buffer does,
and the entry behind it is lost.
-/
namespace LogFollow

open Scanner (capacityOf)

namespace Mark

variable {mark : Mark} {m : Matcher} {part : Bytes}

/-! ## A stream that loses an entry -/

/-- What stands behind the first entry of a straddling stream: an entry that is the literal alone, and
the literal that ends it if it is to end at the next one. -/
def behind (part : Bytes) : Mark → Bytes
  | first => part ++ part
  | last => part

/-- An entry of just the size of a full buffer, with another one behind it. -/
def straddling (mark : Mark) (part : Bytes) (filler : UInt8) (capacity : Nat) : Bytes :=
  match mark with
  | first => part ++ (List.replicate (capacity - part.length) filler ++ mark.behind part)
  | last => List.replicate (capacity - part.length) filler ++ (part ++ mark.behind part)

section Straddling

variable {size : Nat} {filler : UInt8}

theorem drop_straddling (mark : Mark) {capacity : Nat} (h : part.length ≤ capacity) :
    (mark.straddling part filler capacity).drop capacity = mark.behind part := by
  cases mark
  all_goals
    rw [straddling, ← List.append_assoc, List.drop_left']
    rw [List.length_append, List.length_replicate]
    omega

theorem firstAt_straddling (mark : Mark) (hne : part ≠ []) (hfiller : part.head? ≠ some filler)
    {capacity : Nat} (h : part.length ≤ capacity) :
    ∃ q, q + mark.taken part = capacity ∧
      Bytes.FirstAt part (mark.straddling part filler capacity)
        (mark.seek part (mark.straddling part filler capacity)) q := by
  cases mark with
  | first =>
    refine ⟨part.length + (capacity - part.length), by rw [taken]; omega, ?_⟩
    rw [seek, straddling, if_pos (List.prefix_append _ _)]
    exact Bytes.firstAt_replicate hfiller hne part _ part
  | last =>
    refine ⟨capacity - part.length, by rw [taken]; omega, ?_⟩
    have hfirst := Bytes.firstAt_replicate hfiller hne [] (capacity - part.length) part
    rwa [List.length_nil, Nat.zero_add] at hfirst

theorem firstAt_behind (mark : Mark) (part : Bytes) :
    ∃ q, q + mark.taken part = part.length ∧
      Bytes.FirstAt part (mark.behind part) (mark.seek part (mark.behind part)) q := by
  cases mark with
  | first =>
    refine ⟨part.length, Nat.add_zero _, ?_⟩
    rw [seek, behind, if_pos (List.prefix_append _ _)]
    refine ⟨Nat.le_refl _, ?_, fun j hj hlt => absurd hlt (Nat.not_lt.mpr hj)⟩
    rw [Bytes.OccursAt, List.drop_left]
  | last =>
    exact ⟨0, Nat.zero_add _, Nat.le_refl _, List.prefix_refl _,
      fun j _ hlt => absurd hlt (Nat.not_lt_zero _)⟩

theorem not_occursAt_behind (mark : Mark) (hne : part ≠ []) :
    ∀ i, mark.seek part ((mark.behind part).drop part.length) ≤ i →
      ¬ Bytes.OccursAt part ((mark.behind part).drop part.length) i := by
  intro i hi ho
  have hpos := List.length_pos_iff.mpr hne
  have hend := ho.le_length hne
  cases mark with
  | first =>
    rw [behind, List.drop_left] at hi hend
    rw [seek, if_pos (List.prefix_refl _)] at hi
    omega
  | last =>
    rw [behind, List.drop_length, List.length_nil] at hend
    omega

/-- The entry behind is passed over. -/
theorem found_behind (hs : (mark.framing m).Sized size) (hm : m.Marks part) (hsize : 0 < size)
    (place : Nat) :
    ((mark.framing m).found size true place (mark.behind part)).1 = [] := by
  have hpart := hm.le
  have hcap := capacityOf_framing hs
  have hstable := @framing_stable mark m part hm
  obtain ⟨q, htaken, hfirst⟩ := mark.firstAt_behind part
  have hlen : (mark.behind part).length ≤ part.length + part.length := by
    cases mark with
    | first => exact Nat.le_of_eq List.length_append
    | last => exact Nat.le_add_left _ _
  by_cases hroom : q + part.length + mark.ahead ≤ capacityOf (mark.framing m) size
  · rw [Framing.found_token hstable (cut_buffer hs hm hfirst hroom) true place, if_pos rfl,
      htaken, found_no_entry hs hm (mark.not_occursAt_behind hm.ne), reports]
    refine if_neg (Nat.not_le.mpr ?_)
    rw [List.length_drop]
    omega
  · cases mark with
    | first =>
      -- two literals are longer than the buffer: it is thrown away once more
      rw [taken, Nat.add_zero] at htaken
      rw [ahead, htaken, Nat.add_zero] at hroom
      have hlen : (behind part .first).length = part.length + part.length := List.length_append
      have hcut : (framing m .first).cut ((behind part .first).take
          (capacityOf (framing m .first) size)) false = _ :=
        cut_full_buffer hs hm hfirst (by rw [htaken, ahead]; omega)
      have hrest : ∀ i, ¬ Bytes.OccursAt part
          ((behind part .first).drop (capacityOf (framing m .first) size)) i := by
        intro i ho
        have hend := ho.le_length hm.ne
        rw [List.length_drop] at hend
        omega
      rw [Framing.found_full (capacityOf_pos hs) (by omega) hcut true place, if_pos rfl,
        found_skipping_rest hs hm hrest]
    | last =>
      rw [taken] at htaken
      rw [ahead] at hroom
      omega

/-- Of such a stream the first entry alone is found, when the buffer is full. -/
theorem found_straddling (hs : (mark.framing m).Sized size) (hm : m.Marks part)
    (hfiller : part.head? ≠ some filler) (hsize : 0 < size) (place : Nat) :
    ((mark.framing m).found size false place
        (mark.straddling part filler (size + Framing.patternLookahead))).1 =
      [(.oversized (size + Framing.patternLookahead),
        place + (size + Framing.patternLookahead))] := by
  have hpart := hm.le
  have hcap := capacityOf_framing hs
  obtain ⟨q, hq, hfirst⟩ := @firstAt_straddling part filler mark hm.ne hfiller
    (size + Framing.patternLookahead) (by omega)
  have hpos := List.length_pos_iff.mpr hm.ne
  have hend := hfirst.occurs.le_length hm.ne
  have htaken := mark.taken_le part
  have hcut := cut_full_buffer hs hm hfirst (by
    rw [hcap, ← hq]
    cases mark with
    | first => exact Nat.add_lt_add_left hpos q
    | last => exact Nat.lt_succ_self _)
  rw [Framing.found_full (capacityOf_pos hs) (by omega) hcut false place,
    if_neg (by decide), hcap, drop_straddling mark (by omega), found_behind hs hm hsize]

/-- Such a stream has two entries. -/
theorem split_straddling (hm : m.Marks part) (hfiller : part.head? ≠ some filler)
    {capacity : Nat} (h : part.length ≤ capacity) :
    ((mark.framing m).split true (mark.straddling part filler capacity)).1 =
      [(mark.straddling part filler capacity).take capacity, part] := by
  have hstable := @framing_stable mark m part hm
  obtain ⟨q, hq, hfirst⟩ := firstAt_straddling mark hm.ne hfiller h
  obtain ⟨q', hq', hbehind⟩ := mark.firstAt_behind part
  have hrest : (mark.framing m).cut ((mark.behind part).drop part.length) true = .needsMore :=
    cut_of_no_firstAt hm fun i hi =>
      absurd hi.occurs (mark.not_occursAt_behind hm.ne i hi.le)
  have htake : Bytes.slice (mark.behind part) 0 part.length = part := by
    cases mark with
    | first => exact List.take_left
    | last => exact List.take_length
  rw [Framing.split_token hstable (cut_of_firstAt hm hfirst (.inl rfl)), hq,
    drop_straddling mark h,
    Framing.split_token hstable (cut_of_firstAt hm hbehind (.inl rfl)), hq', htake,
    Framing.split_needsMore hrest]
  rfl

end Straddling

end Mark

namespace Scanner

variable {mark : Mark} {m : Matcher} {part : Bytes} {size : Nat} {source : Source}

/-- A pattern that spells a text marks entries with it. -/
theorem exists_marks {pattern text : String} (hs : Pattern.Spells pattern.toList text.toList)
    (hne : text ≠ "") (hle : (Bytes.ofString text).length ≤ Framing.patternLookahead) :
    ∃ m, Framing.matcher pattern = .ok m ∧ m.Marks (Bytes.ofString text) := by
  have hsize : Pattern.literalSize (Bytes.ofString text) ≤ Pattern.sizeLimit :=
    Nat.le_trans (Nat.add_le_add_left (Nat.mul_le_mul_left Pattern.State.baseSize hle) 208)
      (by decide)
  obtain ⟨m, hcompile, hfinds⟩ := Framing.matcher_spells hs hne hsize
  exact ⟨m, hcompile, hfinds, Bytes.ofString_ne_nil hne, hle⟩

/-- A new scanner gives entries as tokens, and the failures of its source. Then what comes behind the
last entry is at hand. -/
def DrainsAs (rule : Framing) (size : Nat) (source : Source) (place : Nat) (entries : List Bytes)
    (rest : Bytes) : Prop :=
  ∃ t, Drains (new rule size source place) (Mark.tokensFrom place entries) source.failures t ∧
    t.takeRemaining.1 = (if rest = [] then none else some rest) ∧
    t.takeRemaining.2.position = place + source.stream.length

/-- The scanner finds one item for each entry of its stream, in order: the entry, or that it is too
large. Then what comes behind the last entry is at hand, unless it filled the buffer. -/
def KeepsEntries (mark : Mark) (part : Bytes) (rule : Framing) (size : Nat) (source : Source)
    (place : Nat) : Prop :=
  ∃ t, Drains (new rule size source place)
      (mark.reports part size place (rule.split true source.stream).1
        (rule.split true source.stream).2) source.failures t ∧
    t.takeRemaining.1 = Mark.remainder size (rule.split true source.stream).2 ∧
    t.takeRemaining.2.position = place + source.stream.length

theorem keepsEntries_of (hs : (mark.framing m).Sized size) (hm : m.Marks part)
    (hclear : ∀ entry ∈ ((mark.framing m).split true source.stream).1,
      ¬ mark.Straddles part (size + Framing.patternLookahead) entry.length) (place : Nat) :
    KeepsEntries mark part (mark.framing m) size source place := by
  have hd := drains_found (Mark.framing_stable hm) (Mark.capacityOf_pos hs) source place
  rw [Mark.found_entries hs hm source.stream hclear] at hd
  exact hd

/-- A scanner for tokens as large as its stream finds all entries. -/
theorem drains_tokens (hs : (mark.framing m).Sized size) (hm : m.Marks part)
    (h : source.stream.length ≤ size) (place : Nat) :
    ∃ t, Drains (new (mark.framing m) size source place)
      (Mark.tokensFrom place ((mark.framing m).split true source.stream).1) source.failures t := by
  obtain ⟨hentries, hrest⟩ := (mark.framing m).split_length_le true source.stream
  have hfits : ∀ entry ∈ ((mark.framing m).split true source.stream).1, entry.length ≤ size :=
    fun entry he => Nat.le_trans (hentries entry he) h
  obtain ⟨t, ht, -⟩ := @keepsEntries_of mark m part size source hs hm
    (fun entry he => Mark.not_straddles_of_le hm.le (hfits entry he)) place
  rw [Mark.reports_of_le hfits (Nat.le_trans hrest h)] at ht
  exact ⟨t, ht⟩

/-- An entry of just the size of a full buffer is all that is found of a straddling stream. -/
theorem drains_straddling (hs : (mark.framing m).Sized size) (hm : m.Marks part) {filler : UInt8}
    (hfiller : part.head? ≠ some filler) (hsize : 0 < size)
    (hstream : source.stream = mark.straddling part filler (size + Framing.patternLookahead))
    (place : Nat) :
    ∃ t, Drains (new (mark.framing m) size source place)
      [(.oversized (size + Framing.patternLookahead),
        place + (size + Framing.patternLookahead))] source.failures t := by
  obtain ⟨t, ht, -⟩ :=
    drains_found (Mark.framing_stable hm) (Mark.capacityOf_pos hs) source place
  rw [hstream, Mark.found_straddling hs hm hfiller hsize] at ht
  exact ⟨t, ht⟩

theorem not_keepsEntries_of_straddling (hs : (mark.framing m).Sized size) (hm : m.Marks part)
    {filler : UInt8} (hfiller : part.head? ≠ some filler) (hsize : 0 < size)
    (hstream : source.stream = mark.straddling part filler (size + Framing.patternLookahead))
    (place : Nat) : ¬ KeepsEntries mark part (mark.framing m) size source place := by
  rintro ⟨t, ht, -⟩
  obtain ⟨u, hu⟩ := drains_straddling hs hm hfiller hsize hstream place
  have hpart := hm.le
  have hitems := congrArg List.length (hu.unique ht).1
  have hall := @Mark.length_le_length_reports mark part size place
    ((mark.framing m).split true source.stream).1 ((mark.framing m).split true source.stream).2
  rw [hitems, hstream, Mark.split_straddling hm hfiller (by omega)] at hall
  exact Nat.not_succ_le_self 1 hall

/-- **An oversized entry takes no neighbour with it, unless it straddles the end of a full buffer.** A
scanner for tokens as large as its stream finds the entries that a literal marks, whatever the pieces
of the stream. One for smaller tokens finds an item for each of them if none straddles; and whatever
the literal and the greatest size, there is a stream on which one does, and on which an entry is lost.
The buffer must be large enough for the greatest size and the look-ahead, which has not wrapped. -/
theorem keepsEntries_unless_straddling {pattern text : String}
    (hs : Pattern.Spells pattern.toList text.toList) (hne : text ≠ "")
    (hle : (Bytes.ofString text).length ≤ Framing.patternLookahead) (mark : Mark) :
    ∃ rule, mark.compile pattern = .ok rule ∧
      (∀ (large : Nat) (source : Source) (place : Nat), rule.Sized large →
        source.stream.length ≤ large → ∃ t, Drains (new rule large source place)
          (Mark.tokensFrom place (rule.split true source.stream).1) source.failures t) ∧
      (∀ (size : Nat) (source : Source) (place : Nat), rule.Sized size →
        (∀ entry ∈ (rule.split true source.stream).1, ¬ mark.Straddles (Bytes.ofString text)
          (size + Framing.patternLookahead) entry.length) →
        KeepsEntries mark (Bytes.ofString text) rule size source place) ∧
      ∀ size place : Nat, 0 < size → rule.Sized size →
        ∃ source, ¬ KeepsEntries mark (Bytes.ofString text) rule size source place := by
  obtain ⟨m, hcompile, hm⟩ := exists_marks hs hne hle
  refine ⟨mark.framing m, by rw [mark.compile_eq, hcompile]; rfl,
    fun large source place hsized h => drains_tokens hsized hm h place,
    fun size source place hsized h => keepsEntries_of hsized hm h place,
    fun size place hpos hsized => ?_⟩
  obtain ⟨filler, hfiller⟩ : ∃ filler, (Bytes.ofString text).head? ≠ some filler := by
    by_cases hzero : (Bytes.ofString text).head? = some 0
    · exact ⟨1, by rw [hzero]; decide⟩
    · exact ⟨0, hzero⟩
  refine ⟨{ script := [.data (mark.straddling (Bytes.ofString text) filler
    (size + Framing.patternLookahead))] },
    not_keepsEntries_of_straddling hsized hm hfiller hpos ?_ place⟩
  simp [Source.stream, Source.streamOf]

/-- An entry that does not fit into a buffer for tokens of two bytes. -/
def longSentence : Bytes := List.replicate 4200 0x61 ++ [0x2E]

theorem length_longSentence : longSentence.length = 4201 := by
  rw [longSentence, List.length_append, List.length_replicate]
  rfl

/-- The entry, and a small one behind it. -/
def sentences : Source :=
  { script := [.data (List.replicate 4200 0x61), .interrupted, .data [0x2E, 0x62, 0x2E]] }

theorem stream_sentences : sentences.stream = longSentence ++ [0x62, 0x2E] := by
  rw [longSentence, List.append_assoc]
  rfl

theorem split_sentences (hm : m.Marks [0x2E]) :
    (Mark.last.framing m).split true sentences.stream = ([longSentence, [0x62, 0x2E]], []) := by
  have hstable := @Mark.framing_stable .last m [0x2E] hm
  have hfirst : Bytes.FirstAt [0x2E] sentences.stream 0 4200 :=
    Bytes.firstAt_replicate (by decide) hm.ne [] 4200 [0x62, 0x2E]
  have hsecond : Bytes.FirstAt [0x2E] [0x62, 0x2E] 0 1 :=
    Bytes.firstAt_replicate (by decide) hm.ne [] 1 []
  have hentry : Bytes.slice sentences.stream 0 4201 = longSentence := by
    rw [stream_sentences]
    exact List.take_left' length_longSentence
  have hrest : sentences.stream.drop 4201 = [0x62, 0x2E] := by
    rw [stream_sentences]
    exact List.drop_left' length_longSentence
  rw [Framing.split_token hstable (Mark.cut_of_firstAt hm hfirst (.inl rfl))]
  change (Bytes.slice _ 0 4201 :: ((Mark.last.framing m).split true (List.drop 4201 _)).1,
    ((Mark.last.framing m).split true (List.drop 4201 _)).2) = _
  rw [hentry, hrest, Framing.split_token hstable (Mark.cut_of_firstAt hm hsecond (.inl rfl))]
  change ([_, [0x62, 0x2E]] ++ ((Mark.last.framing m).split true []).1,
    ((Mark.last.framing m).split true []).2) = _
  rw [Framing.split_needsMore rfl]
  rfl

/-- The one behind it is found. -/
theorem keepsEntries_sentences :
    ∃ rule, Mark.last.compile "\\." = .ok rule ∧
      ∃ t, Drains (new rule 2 sentences 0)
        [(.oversized 4098, 4098), (.token [0x62, 0x2E], 4203)] [] t := by
  have hspells : Pattern.Spells "\\.".toList ".".toList := .escaped (by decide) .nil
  have hbytes : Bytes.ofString "." = [0x2E] := by
    rw [Bytes.ofString_eq]
    decide +kernel
  have hle : (Bytes.ofString ".").length ≤ Framing.patternLookahead := by
    rw [hbytes]
    decide
  obtain ⟨m, hcompile, hm⟩ := exists_marks hspells (by decide) hle
  obtain ⟨rule, hrule, -, hkeeps, -⟩ :=
    keepsEntries_unless_straddling hspells (by decide) hle .last
  obtain rfl : Mark.last.framing m = rule := by
    rw [Mark.compile_eq, hcompile] at hrule
    exact Except.ok.inj hrule
  rw [hbytes] at hm hkeeps
  have hsplit := split_sentences hm
  have hclear : ∀ entry ∈ ((Mark.last.framing m).split true sentences.stream).1,
      ¬ Mark.last.Straddles [0x2E] (2 + Framing.patternLookahead) entry.length := by
    rw [hsplit]
    rintro entry he ⟨k, hk, hcut, hfull⟩
    change entry.length < k * 4098 + 1 at hcut
    change k * 4098 ≤ entry.length at hfull
    rcases List.mem_cons.mp he with rfl | he
    · rw [length_longSentence] at hcut hfull
      omega
    · rw [List.mem_singleton.mp he] at hfull
      change k * 4098 ≤ 2 at hfull
      omega
  obtain ⟨t, ht, -⟩ := hkeeps 2 sentences 0 (Mark.sized_framing (by decide)) hclear
  rw [hsplit] at ht
  -- the length decides, and the bytes are not to be evaluated
  have hlen := length_longSentence
  generalize longSentence = entry at hlen ht
  rw [Mark.reports, Mark.report, hlen] at ht
  exact ⟨_, hrule, t, ht⟩

/-- A stream of which the first entry fills a buffer for tokens of one byte. -/
def filled : Source :=
  { script := [.data [0x58], .data (List.replicate 4096 0x61), .data [0x58, 0x58]] }

/-- The entry `X` is lost behind it. -/
theorem not_keepsEntries_filled :
    ∃ rule, Mark.first.compile "X" = .ok rule ∧
      (∃ t, Drains (new rule 4099 filled 0)
        [(.token (0x58 :: List.replicate 4096 0x61), 4097), (.token [0x58], 4098)] [] t) ∧
      ∃ t, Drains (new rule 1 filled 0) [(.oversized 4097, 4097)] [] t := by
  have hspells : Pattern.Spells "X".toList "X".toList := .plain (by decide) .nil
  have hbytes : Bytes.ofString "X" = [0x58] := by
    rw [Bytes.ofString_eq]
    decide +kernel
  obtain ⟨m, hcompile, hm⟩ := exists_marks hspells (by decide) (by rw [hbytes]; decide)
  rw [hbytes] at hm
  have hstream : filled.stream = Mark.first.straddling [0x58] 0x61 4097 := rfl
  have hfiller : ([0x58] : Bytes).head? ≠ some 0x61 := by decide
  have hentry : (Mark.first.straddling [0x58] 0x61 4097).take 4097 =
      0x58 :: List.replicate 4096 0x61 := by
    have hlen : ([0x58] ++ List.replicate 4096 (0x61 : UInt8)).length = 4097 := by
      rw [List.length_append, List.length_replicate]
      rfl
    exact List.take_left' hlen
  have hlen : filled.stream.length ≤ 4099 := by
    rw [hstream, Mark.straddling, List.length_append, List.length_append, List.length_replicate]
    decide
  refine ⟨.entryStart m, by rw [Mark.compile_eq, hcompile]; rfl, ?_,
    @drains_straddling .first m [0x58] 1 filled (Mark.sized_framing (by decide)) hm _ hfiller
      (by decide) hstream 0⟩
  obtain ⟨t, ht⟩ :=
    @drains_tokens .first m [0x58] 4099 filled (Mark.sized_framing (by decide)) hm hlen 0
  rw [hstream, Mark.split_straddling hm hfiller (by decide), hentry, Mark.tokensFrom,
    List.length_cons, List.length_replicate] at ht
  exact ⟨t, ht⟩

end Scanner

end LogFollow
