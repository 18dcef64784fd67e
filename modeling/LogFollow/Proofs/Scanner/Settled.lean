import LogFollow.Proofs.Scanner.Entries
import LogFollow.Proofs.Scanner.Safe

/-!
# Streams that settle what is cut from them

A scanner cuts what its buffer holds, while more of the stream is to come. A pattern may match there and
not in the whole stream, or match elsewhere. A stream is settled for a rule if this makes no difference:
each token that can be cut early is the one with which all that is still to come begins. The entries of
such a stream are those of the whole stream, in whatever reads it comes.
-/
namespace LogFollow

namespace Framing

/-- What a scanner may look at while more of a stream is to come, if it begins with the bytes up to
`first`: the bytes from a place up to those that were read. -/
inductive Sees (rule : Framing) (stream : Bytes) (first : Nat) : (place read : Nat) → Prop
  | start : Sees rule stream first 0 first
  | more {place read read' : Nat} : Sees rule stream first place read →
      rule.cut (Bytes.slice stream place read) false = .needsMore → read ≤ read' →
      read' ≤ stream.length → Sees rule stream first place read'
  | token {place read advance : Nat} {token : Span} : Sees rule stream first place read →
      rule.cut (Bytes.slice stream place read) false = .token advance token →
      Sees rule stream first (place + advance) read

/-- What can be cut after the bytes up to `first` were read is what the rest of the stream begins with. -/
def SettledFrom (rule : Framing) (stream : Bytes) (first : Nat) : Prop :=
  ∀ place read advance token, rule.Sees stream first place read →
    rule.cut (Bytes.slice stream place read) false = .token advance token →
    rule.cut (stream.drop place) true = .token advance token

/-- What can be cut from the stream early is what the rest of it begins with. -/
def Settled (rule : Framing) (stream : Bytes) : Prop := rule.SettledFrom stream 0

variable {rule : Framing} {data stream : Bytes} {first place read advance : Nat} {token : Span}

/-- A token that is cut while more bytes may come is cut when no more come. -/
theorem cut_complete (h : rule.cut data false = .token advance token) :
    rule.cut data true = .token advance token := by
  unfold cut at h ⊢
  split at h
  · cases h
  · next hne =>
    rw [if_neg hne]
    cases rule with
    | newline nl cr width => exact h
    | entryStart m => exact h
    | entryEnd m =>
      simp only [cutAfterEntry] at h ⊢
      cases hlast : firstEnd? m data with
      | none => simp [hlast] at h
      | some last =>
        simp only [hlast] at h
        split at h
        · cases h
        · simpa using h

theorem Sees.first_le (h : rule.Sees stream first place read) : first ≤ read := by
  induction h with
  | start => exact Nat.le_refl _
  | more _ _ hle _ ih => exact Nat.le_trans ih hle
  | token _ _ ih => exact ih

theorem Sees.read_le (h : rule.Sees stream first place read) (hfirst : first ≤ stream.length) :
    read ≤ stream.length := by
  induction h with
  | start => exact hfirst
  | more _ _ _ hle => exact hle
  | token _ _ ih => exact ih

theorem Sees.place_le (hr : rule.Lawful) (h : rule.Sees stream first place read) : place ≤ read := by
  induction h with
  | start => exact Nat.zero_le _
  | more _ _ hle _ ih => exact Nat.le_trans ih hle
  | token _ hcut ih =>
    have hle := (hr.advances hcut).1.le
    rw [Bytes.length_slice] at hle
    omega

/-- A stream that is read as a whole is settled. -/
theorem settledFrom_length (rule : Framing) (stream : Bytes) :
    rule.SettledFrom stream stream.length := by
  intro place read advance token h hcut
  have hread : read = stream.length := Nat.le_antisymm (h.read_le (Nat.le_refl _)) h.first_le
  have hslice : Bytes.slice stream place read = stream.drop place := by
    rw [hread, Bytes.slice]
    exact List.take_of_length_le (Nat.le_of_eq List.length_drop)
  rw [hslice] at hcut
  exact cut_complete hcut

/-- It is enough to look at all slices of a stream. -/
theorem settled_of_slices (hr : rule.Lawful)
    (h : ∀ read ≤ stream.length, ∀ place ≤ read,
      rule.cut (Bytes.slice stream place read) false = .needsMore ∨
        rule.cut (Bytes.slice stream place read) false = rule.cut (stream.drop place) true) :
    rule.Settled stream := by
  intro place read advance token hsees hcut
  rcases h read (hsees.read_le (Nat.zero_le _)) place (hsees.place_le hr) with hmore | hsame
  · cases hcut.symm.trans hmore
  · exact hsame.symm.trans hcut

end Framing

namespace Scanner

/-- A scanner at a place of a stream that began at a place of a file, and that has read some bytes of the
stream before it first looked for a token. -/
structure Watches (rule : Framing) (size : Nat) (stream : Bytes) (first base place : Nat)
    (failures : List IoError) (s : Scanner) : Prop where
  rule_eq : s.rule = rule
  maxSize_eq : s.maxSize = size
  sound : s.Sound
  skipping : s.skipping = false
  position : s.position = base + place
  pending : s.pending = stream.drop place
  le : place ≤ stream.length
  failures_eq : s.source.failures = failures
  sees : s.atEnd = false → rule.Sees stream first place (place + s.window.length)

variable {rule : Framing} {size : Nat} {stream : Bytes} {first base place : Nat}
  {failures : List IoError} {s t : Scanner}

/-! ## One look for a token -/

theorem item_of_le {advance : Nat} (h : advance ≤ s.maxSize) :
    take?.item s ⟨0, advance⟩ = .token (Bytes.slice s.window 0 advance) :=
  if_neg (Nat.not_lt.mpr h)

theorem take?_of_not_skipping (hs : s.skipping = false) :
    s.take? = match s.rule.cut s.window s.atEnd with
      | .needsMore => (none, s)
      | .token advance token => (some (take?.item s token), s.consume advance) := by
  unfold take?
  cases s.rule.cut s.window s.atEnd with
  | needsMore => rfl
  | token advance token => simp only [hs, Bool.false_eq_true, if_false]

theorem Watches.slice_eq (h : Watches rule size stream first base place failures s) :
    Bytes.slice stream place (place + s.window.length) = s.window := by
  rw [Bytes.slice_of_drop h.pending.symm, Scanner.pending, List.take_left]

theorem Watches.window_of_atEnd (h : Watches rule size stream first base place failures s)
    (he : s.atEnd = true) : s.window = stream.drop place := by
  rw [← h.pending, Scanner.pending, (h.sound.ended he).2.1, List.append_nil]

theorem Watches.length_window_le (h : Watches rule size stream first base place failures s) :
    place + s.window.length ≤ stream.length := by
  have hlen := congrArg List.length h.pending
  have hle := h.le
  rw [Scanner.pending, List.length_append, List.length_drop] at hlen
  omega

theorem Watches.take?_none (h : Watches rule size stream first base place failures s)
    (ht : s.take? = (none, t)) : t = s ∧ rule.cut s.window s.atEnd = .needsMore := by
  rw [take?_of_not_skipping h.skipping, h.rule_eq] at ht
  cases hcut : rule.cut s.window s.atEnd with
  | needsMore =>
    rw [hcut] at ht
    exact ⟨(congrArg Prod.snd ht).symm, rfl⟩
  | token advance token =>
    rw [hcut] at ht
    cases ht

/-- A token that is found is the first one of all that is still to come. -/
theorem Watches.cut_drop (h : Watches rule size stream first base place failures s)
    (hsettled : rule.SettledFrom stream first) {advance : Nat} {token : Span}
    (hcut : rule.cut s.window s.atEnd = .token advance token) :
    rule.cut (stream.drop place) true = .token advance token := by
  cases he : s.atEnd with
  | true =>
    rwa [he, h.window_of_atEnd he] at hcut
  | false =>
    rw [he, ← h.slice_eq] at hcut
    exact hsettled _ _ _ _ (h.sees he) hcut

theorem Watches.take?_some (h : Watches rule size stream first base place failures s)
    (hr : rule.Lawful) (hg : rule.Gapless) (hsettled : rule.SettledFrom stream first)
    (hsize : stream.length ≤ size) {item : Scanned} (ht : s.take? = (some item, t)) :
    ∃ advance, rule.cut (stream.drop place) true = .token advance ⟨0, advance⟩ ∧ 0 < advance ∧
      place + advance ≤ stream.length ∧ item = .token (Bytes.slice (stream.drop place) 0 advance) ∧
      Watches rule size stream first base (place + advance) failures t := by
  rw [take?_of_not_skipping h.skipping, h.rule_eq] at ht
  cases hcut : rule.cut s.window s.atEnd with
  | needsMore =>
    rw [hcut] at ht
    cases ht
  | token advance token =>
    rw [hcut] at ht
    obtain ⟨hitem, rfl⟩ := Prod.mk.inj ht
    obtain ⟨hadvances, hgapless⟩ := hr.advances hcut
    obtain rfl := hgapless hg
    have hwindow := h.length_window_le
    have hpos := hadvances.pos
    have hle := hadvances.le
    have hpending : (s.consume advance).pending = stream.drop (place + advance) := by
      rw [s.pending_consume hle, h.pending, List.drop_drop]
    have hslice : Bytes.slice s.window 0 advance = Bytes.slice (stream.drop place) 0 advance := by
      rw [← h.pending, Scanner.pending, Bytes.slice_append hle]
    have htoken := @item_of_le s advance (by rw [h.maxSize_eq]; omega)
    refine ⟨advance, h.cut_drop hsettled hcut, hpos, by omega, ?_, ?_⟩
    · rw [← Option.some.inj hitem, htoken, hslice]
    · refine ⟨h.rule_eq, h.maxSize_eq, h.sound.consume advance s.skipping, h.skipping, ?_, hpending,
        by omega, h.failures_eq, fun he => ?_⟩
      · change s.position + advance = _
        rw [h.position, Nat.add_assoc]
      · have he : s.atEnd = false := he
        rw [he, ← h.slice_eq] at hcut
        have hsees := (h.sees he).token hcut
        have hread : place + advance + (s.consume advance).window.length =
            place + s.window.length := by
          change place + advance + (s.window.drop advance).length = _
          rw [List.length_drop]
          omega
        rwa [hread]

/-! ## One turn of reading -/

/-- The buffer of a stream that is not too large never is full for good. -/
theorem Watches.makeRoom (h : Watches rule size stream first base place failures s)
    (hs : rule.Sized size) (hsize : stream.length ≤ size) (hpos : 0 < rule.lookahead) :
    s.makeRoom.1 = none ∧ Watches rule size stream first base place failures s.makeRoom.2 ∧
      s.makeRoom.2.window = s.window := by
  have hwindow := h.length_window_le
  have hsound := h.sound.makeRoom
  have hkeeps := s.makeRoom_keeps
  have hcapacity : s.capacity = size + rule.lookahead := by
    rw [capacity, h.rule_eq, h.maxSize_eq, capacityOf_of_sized hs]
  have hmakes := makesRoom h.sound
  generalize s.makeRoom = made at hmakes hsound hkeeps
  cases hmakes with
  | roomy => exact ⟨rfl, ⟨h.rule_eq, h.maxSize_eq, hsound, h.skipping, h.position, h.pending, h.le,
      h.failures_eq, h.sees⟩, rfl⟩
  | grown => exact ⟨rfl, ⟨h.rule_eq, h.maxSize_eq, hsound, h.skipping, h.position, h.pending, h.le,
      h.failures_eq, h.sees⟩, rfl⟩
  | skipped hw =>
    rw [hcapacity] at hw
    omega
  | dropped hw =>
    rw [hcapacity] at hw
    omega

theorem Watches.fill (h : Watches rule size stream first base place failures s)
    (hroom : s.window.length < s.room) (he : s.atEnd = false)
    (hcut : rule.cut s.window false = .needsMore) :
    (∀ t, s.fill = (none, t) → Watches rule size stream first base place failures t) ∧
      ∀ cause t, s.fill = (some cause, t) → ∃ behind, failures = cause :: behind ∧
        Watches rule size stream first base place behind t := by
  have hsound := h.sound.fill hroom he
  have hfills := fills hroom
  rw [← h.slice_eq] at hcut
  generalize s.fill = filled at hfills hsound
  cases hfills with
  | ended source hstream hfailures hstream' hfailures' =>
    refine ⟨?_, fun cause t ht => (by cases ht)⟩
    rintro t ht
    cases ht
    refine ⟨h.rule_eq, h.maxSize_eq, hsound, h.skipping, h.position, ?_, h.le, ?_, ?_⟩
    · rw [← h.pending, Scanner.pending, Scanner.pending, hstream, hstream']
    · rw [← h.failures_eq, hfailures, hfailures']
    · exact fun hend => by cases hend
  | some bytes source hle hstream hfailures _ =>
    refine ⟨?_, fun cause t ht => (by cases ht)⟩
    rintro t ht
    cases ht
    have hpending : (s.window ++ bytes) ++ source.stream = stream.drop place := by
      rw [← h.pending, Scanner.pending, hstream, List.append_assoc]
    refine ⟨h.rule_eq, h.maxSize_eq, hsound, h.skipping, h.position, hpending, h.le, ?_, fun _ => ?_⟩
    · rw [← h.failures_eq, hfailures]
    · have hlen := congrArg List.length hpending
      have hplace := h.le
      rw [List.length_append, List.length_append, List.length_drop] at hlen
      refine (h.sees he).more hcut ?_ ?_
      · rw [List.length_append]
        omega
      · rw [List.length_append]
        omega
  | failed cause source hstream hfailures _ =>
    refine ⟨fun t ht => (by cases ht), ?_⟩
    rintro cause t ht
    cases ht
    refine ⟨source.failures, by rw [← h.failures_eq, hfailures], h.rule_eq, h.maxSize_eq, hsound,
      h.skipping, h.position, ?_, h.le, rfl, h.sees⟩
    rw [← h.pending, Scanner.pending, Scanner.pending, hstream]

/-! ## One call -/

/-- When a scanner makes room or reads, it has found no token in the bytes at hand. -/
def Hungry : Phase → Scanner → Prop
  | .looking, _ => True
  | .making, s => s.atEnd = false ∧ s.rule.cut s.window false = .needsMore
  | .reading, s =>
    s.atEnd = false ∧ s.rule.cut s.window false = .needsMore ∧ s.window.length < s.room

theorem Watches.within (h : Watches rule size stream first base place failures s)
    (hs : rule.Sized size) (hsize : stream.length ≤ size) (hpos : 0 < rule.lookahead) {phase : Phase}
    (hw : Within s phase t) :
    Watches rule size stream first base place failures t ∧ Hungry phase t := by
  induction hw with
  | called => exact ⟨h, trivial⟩
  | missed _ ht he ih =>
    obtain ⟨rfl, hcut⟩ := ih.1.take?_none ht
    rw [he] at hcut
    exact ⟨ih.1, he, ih.1.rule_eq.symm ▸ hcut⟩
  | turned _ hm hnone ih => exact absurd hnone (ih.1.sound.room_ne_zero hm)
  | @made t u _ hm _ ih =>
    obtain ⟨ht, he, hcut⟩ := ih
    obtain ⟨-, hmade, hwindow⟩ := ht.makeRoom hs hsize hpos
    have hkeeps := t.makeRoom_keeps
    rw [hm] at hmade hwindow hkeeps
    refine ⟨hmade, hkeeps.atEnd.trans he, ?_, lt_room_of_makeRoom ht.sound hm⟩
    rw [hkeeps.rule, hwindow]
    exact hcut
  | read _ hf ih =>
    obtain ⟨ht, he, hcut, hroom⟩ := ih
    rw [ht.rule_eq] at hcut
    exact ⟨(ht.fill hroom he hcut).1 _ hf, trivial⟩

/-- What a call for an item gives at a place of a settled stream. -/
inductive Steps (rule : Framing) (size : Nat) (stream : Bytes) (first base place : Nat) :
    (failures : List IoError) → ScanResult × Scanner → Prop
  | found {failures : List IoError} {advance : Nat} {t : Scanner} :
      rule.cut (stream.drop place) true = .token advance ⟨0, advance⟩ → 0 < advance →
      place + advance ≤ stream.length →
      Watches rule size stream first base (place + advance) failures t →
      Steps rule size stream first base place failures
        (.found (.token (Bytes.slice (stream.drop place) 0 advance)), t)
  | failed {behind : List IoError} {cause : IoError} {t : Scanner} :
      Watches rule size stream first base place behind t →
      Steps rule size stream first base place (cause :: behind) (.failed cause, t)
  | exhausted {failures : List IoError} {t : Scanner} :
      rule.cut (stream.drop place) true = .needsMore → t.atEnd = true →
      Watches rule size stream first base place failures t →
      Steps rule size stream first base place failures (.exhausted, t)

theorem lookahead_pos_of_gapless (hg : rule.Gapless) : 0 < rule.lookahead := by
  cases rule with
  | newline => exact hg.elim
  | entryStart => exact (by decide : 0 < Framing.patternLookahead)
  | entryEnd => exact (by decide : 0 < Framing.patternLookahead)

theorem takeRemaining_of_not_skipping (hs : s.skipping = false) :
    s.takeRemaining.1 = (if s.window = [] then none else some s.window) ∧
      s.takeRemaining.2.position = s.position + s.window.length := by
  unfold takeRemaining
  by_cases hw : s.window = []
  · simp [hw]
  · have hne : s.window.isEmpty = false := List.isEmpty_eq_false_iff.mpr hw
    simp only [hne, hw, hs, Bool.false_eq_true, if_false]
    exact ⟨trivial, rfl⟩

section Calls

variable (hr : rule.Lawful) (hg : rule.Gapless) (hsettled : rule.SettledFrom stream first)
  (hs : rule.Sized size) (hsize : stream.length ≤ size)

include hr hg hsettled hs hsize

theorem Watches.steps_next (h : Watches rule size stream first base place failures s) :
    Steps rule size stream first base place failures s.next := by
  have hpos := lookahead_pos_of_gapless hg
  obtain ⟨phase, u, hw, hends⟩ := h.sound.ends_next
  obtain ⟨hu, hungry⟩ := h.within hs hsize hpos hw
  generalize s.next = result at hends
  cases hends with
  | found ht =>
    obtain ⟨advance, hcut, hadvance, hle, rfl, hwatch⟩ := hu.take?_some hr hg hsettled hsize ht
    exact .found hcut hadvance hle hwatch
  | exhausted ht he =>
    obtain ⟨rfl, hcut⟩ := hu.take?_none ht
    rw [he, hu.window_of_atEnd he] at hcut
    exact .exhausted hcut he hu
  | full hm =>
    have hnone := (hu.makeRoom hs hsize hpos).1
    rw [hm] at hnone
    cases hnone
  | failed hf =>
    obtain ⟨he, hcut, hroom⟩ := hungry
    rw [hu.rule_eq] at hcut
    obtain ⟨behind, rfl, ht⟩ := (hu.fill hroom he hcut).2 _ _ hf
    exact .failed ht

/-- The calls give the entries of what is still to come. -/
theorem Watches.drains (h : Watches rule size stream first base place failures s) :
    ∃ t, Drains s (Mark.tokensFrom (base + place) (rule.split true (stream.drop place)).1) failures t ∧
      t.takeRemaining.1 = (if (rule.split true (stream.drop place)).2 = [] then none
        else some (rule.split true (stream.drop place)).2) ∧
      t.takeRemaining.2.position = base + stream.length := by
  -- each call takes an entry from the front of what is to come, or a failure
  induction hn : stream.length - place + failures.length using Nat.strong_induction_on
    generalizing s place failures with
  | h n ih =>
    have hsteps := h.steps_next hr hg hsettled hs hsize
    rcases hnext : s.next with ⟨result, t⟩
    rw [hnext] at hsteps
    cases hsteps with
    | @found _ advance _ hcut hadvance hle ht =>
      have hdrop : advance ≤ (stream.drop place).length := by
        rw [List.length_drop]
        omega
      have hlen : (Bytes.slice (stream.drop place) 0 advance).length = advance :=
        List.length_take_of_le hdrop
      obtain ⟨u, hu, hrest⟩ := ih _ (by omega) ht rfl
      rw [Framing.split_of_cut hcut hadvance hdrop, List.drop_drop, Mark.tokensFrom, hlen,
        Nat.add_assoc, ← ht.position]
      rw [← ht.position] at hu
      exact ⟨u, .found hnext hu, hrest⟩
    | failed ht =>
      obtain ⟨u, hu, hrest⟩ := ih _ (by rw [← hn, List.length_cons]; omega) ht rfl
      exact ⟨u, .failed hnext hu, hrest⟩
    | exhausted hcut he ht =>
      have hwindow := ht.window_of_atEnd he
      have hnone : failures = [] := ht.failures_eq.symm.trans (ht.sound.ended he).2.2
      obtain ⟨hremaining, hposition⟩ := takeRemaining_of_not_skipping ht.skipping
      have hle := ht.le
      rw [Framing.split_needsMore hcut, hnone]
      refine ⟨t, .exhausted hnext, by rw [hremaining, hwindow], ?_⟩
      rw [hposition, hwindow, ht.position, List.length_drop]
      omega

end Calls

/-- **The entries of a settled stream are those of the whole stream**, in whatever reads it comes. -/
theorem drainsAs_of_settled (hr : rule.Lawful) (hg : rule.Gapless) (source : Source)
    (hsettled : rule.Settled source.stream) (hs : rule.Sized size)
    (hsize : source.stream.length ≤ size) (base : Nat) :
    DrainsAs rule size source base (rule.split true source.stream).1
      (rule.split true source.stream).2 := by
  have hpos : 0 < capacityOf rule size := by
    rw [capacityOf_of_sized hs]
    exact Nat.add_pos_right size (lookahead_pos_of_gapless hg)
  have hnew : Watches rule size source.stream 0 base 0 source.failures (new rule size source base) :=
    ⟨rfl, rfl, new_sound hpos source base, rfl, rfl, rfl, Nat.zero_le _, rfl, fun _ => .start⟩
  exact hnew.drains hr hg hsettled hs hsize

end Scanner

end LogFollow
