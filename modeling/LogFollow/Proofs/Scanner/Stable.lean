import LogFollow.Proofs.Framing
import LogFollow.Proofs.Scanner.Drains
import LogFollow.Proofs.Scanner.Pull
import Mathlib.Data.Nat.Init

/-!
# What a scanner finds depends on its stream alone

A rule is stable if a token that it finds stays the first one when more bytes come. `Framing.found` says
what a scanner for a stable rule finds in a byte string: it looks at as many bytes as fit into a full
buffer, takes the first token in them, and throws them away if there is none. Neither the pieces in
which the bytes come nor the reads that are interrupted or fail have a say in it.
-/
namespace LogFollow

open Scanner (capacityOf)

namespace Framing

/-- What is reported of the token at the front of some bytes. -/
def itemOf (m : Nat) (data : Bytes) (token : Span) : Scanned :=
  if m < token.size then .oversized token.size else .token (Bytes.slice data token.start token.stop)

/-- What a scanner finds in the bytes from a place on, and the bytes it leaves, if there are any;
`skipping` tells that they begin inside an oversized entry. -/
def found (rule : Framing) (m : Nat) (skipping : Bool) (place : Nat) (data : Bytes) :
    List (Scanned × Nat) × Option Bytes :=
  let capacity := capacityOf rule m
  match rule.cut (data.take capacity) (data.length < capacity) with
  | .token advance token =>
    if _h : 0 < advance ∧ advance ≤ data.length then
      let rest := found rule m false (place + advance) (data.drop advance)
      if skipping then rest else ((itemOf m data token, place + advance) :: rest.1, rest.2)
    else ([], none)
  | .needsMore =>
    if _h : 0 < capacity ∧ capacity ≤ data.length then
      let rest := found rule m true (place + capacity) (data.drop capacity)
      if skipping then rest else ((.oversized capacity, place + capacity) :: rest.1, rest.2)
    else ([], if skipping = true ∨ data = [] then none else some data)
termination_by data.length
decreasing_by all_goals (rw [List.length_drop]; omega)

variable {rule : Framing} {m : Nat} {data more : Bytes} {advance : Nat} {token : Span}

/-- A token within some bytes is the same when more bytes follow. -/
theorem itemOf_append (h : token.stop ≤ data.length) (more : Bytes) :
    itemOf m (data ++ more) token = itemOf m data token := by
  rw [itemOf, itemOf, Bytes.slice_append h]

/-- The first token of a full buffer is found, or passed over behind an oversized entry. -/
theorem found_token (hr : rule.Stable)
    (hc : rule.cut (data.take (capacityOf rule m)) (data.length < capacityOf rule m) =
      .token advance token) (skipping : Bool) (place : Nat) :
    rule.found m skipping place data =
      if skipping then rule.found m false (place + advance) (data.drop advance)
      else ((itemOf m data token, place + advance) ::
          (rule.found m false (place + advance) (data.drop advance)).1,
        (rule.found m false (place + advance) (data.drop advance)).2) := by
  have hpos := hr.pos _ _ _ _ hc
  have hle := (hr.front _ _ _ _ hc).2.2
  rw [List.length_take] at hle
  conv_lhs => rw [found]
  simp only [hc]
  rw [dif_pos ⟨hpos, by omega⟩]

/-- A full buffer without a token is thrown away, and reported unless it was before. -/
theorem found_full (hpos : 0 < capacityOf rule m) (hl : capacityOf rule m ≤ data.length)
    (hc : rule.cut (data.take (capacityOf rule m)) false = .needsMore) (skipping : Bool)
    (place : Nat) :
    rule.found m skipping place data =
      if skipping then
        rule.found m true (place + capacityOf rule m) (data.drop (capacityOf rule m))
      else ((.oversized (capacityOf rule m), place + capacityOf rule m) ::
          (rule.found m true (place + capacityOf rule m) (data.drop (capacityOf rule m))).1,
        (rule.found m true (place + capacityOf rule m) (data.drop (capacityOf rule m))).2) := by
  have hd : decide (data.length < capacityOf rule m) = false := by simpa using hl
  conv_lhs => rw [found]
  simp only [hd, hc]
  rw [dif_pos ⟨hpos, hl⟩]

/-- Bytes that leave room and hold no token are left, unless they belong to an oversized entry. -/
theorem found_rest (hl : data.length < capacityOf rule m) (hc : rule.cut data true = .needsMore)
    (skipping : Bool) (place : Nat) :
    rule.found m skipping place data =
      ([], if skipping = true ∨ data = [] then none else some data) := by
  have ht : data.take (capacityOf rule m) = data := List.take_of_length_le (by omega)
  conv_lhs => rw [found]
  simp only [hl, ht, hc, decide_true]
  rw [dif_neg (by omega)]

/-- A token that fits into the buffer is found in a full buffer. -/
theorem Stable.cut_take (hr : rule.Stable) (hc : rule.cut data false = .token advance token)
    (hl : data.length ≤ capacityOf rule m) (complete : Bool) :
    rule.cut ((data ++ more).take (capacityOf rule m)) complete = .token advance token := by
  rw [List.take_append, List.take_of_length_le hl]
  exact hr.stays _ _ _ hc _ _

end Framing

namespace Scanner

/-- The scanner cuts by a stable rule, and its buffer is in order. -/
structure Steady (s : Scanner) : Prop where
  rule : s.rule.Stable
  sound : Sound s

/-- What a scanner still finds. -/
def prospect (s : Scanner) : Outlook where
  items := (s.rule.found s.maxSize s.skipping s.position s.pending).1
  failures := s.source.failures
  left := (s.rule.found s.maxSize s.skipping s.position s.pending).2
  stop := s.position + s.pending.length

theorem Steady.makeRoom {s : Scanner} (h : Steady s) : Steady s.makeRoom.2 :=
  ⟨s.makeRoom_keeps.rule ▸ h.rule, h.sound.makeRoom⟩

theorem Steady.fill {s : Scanner} (h : Steady s) (hw : s.window.length < s.room)
    (he : s.atEnd = false) : Steady s.fill.2 :=
  ⟨(fill_rule hw).1 ▸ h.rule, h.sound.fill hw he⟩

theorem Steady.take? {s : Scanner} (h : Steady s) : Steady s.take?.2 :=
  ⟨s.take?_keeps.rule ▸ h.rule, h.sound.take?⟩

/-- A token in the window is the first one of a full buffer. -/
theorem Steady.cut_pending {s : Scanner} (h : Steady s) {advance : Nat} {token : Span}
    (hc : s.rule.cut s.window s.atEnd = .token advance token) :
    s.rule.cut (s.pending.take s.capacity) (s.pending.length < s.capacity) =
      .token advance token := by
  have hl := h.sound.window_le
  have hr := h.sound.room_le
  -- in the end the window is all there is; before that the rule stands by what it has cut
  cases he : s.atEnd with
  | true =>
    obtain ⟨hw, hs, -⟩ := h.sound.ended he
    have hp : s.pending = s.window := by rw [pending, hs, List.append_nil]
    have hlt : s.window.length < s.capacity := by omega
    rw [he] at hc
    rw [hp, List.take_of_length_le (by omega)]
    simpa only [hlt, decide_true] using hc
  | false =>
    rw [he] at hc
    exact h.rule.cut_take hc (Nat.le_trans hl hr) _

/-- A token in the window is what the scanner finds next, unless it is skipping. -/
theorem Steady.found_cut {s : Scanner} (h : Steady s) {advance : Nat} {token : Span}
    (hc : s.rule.cut s.window s.atEnd = .token advance token) :
    s.rule.found s.maxSize s.skipping s.position s.pending =
        (if s.skipping then
          s.rule.found s.maxSize false (s.position + advance) (s.consume advance).pending
        else
          ((take?.item s token, s.position + advance) ::
              (s.rule.found s.maxSize false (s.position + advance) (s.consume advance).pending).1,
            (s.rule.found s.maxSize false (s.position + advance) (s.consume advance).pending).2)) ∧
      s.position + s.pending.length = s.position + advance + (s.consume advance).pending.length := by
  obtain ⟨-, hstop, hle⟩ := h.rule.front _ _ _ _ hc
  have hdrop := (s.pending_consume hle).symm
  have hitem : Framing.itemOf s.maxSize s.pending token = take?.item s token := by
    rw [pending, Framing.itemOf_append (by omega)]
    rfl
  have hlen : s.window.length ≤ s.pending.length := by
    rw [pending, List.length_append]
    omega
  refine ⟨?_, ?_⟩
  · rw [Framing.found_token h.rule (h.cut_pending hc), hdrop, hitem]
  · rw [← hdrop, List.length_drop]
    omega

theorem Steady.prospect_token {s : Scanner} (h : Steady s) {advance : Nat} {token : Span}
    (hc : s.rule.cut s.window s.atEnd = .token advance token) (hs : s.skipping = false) :
    s.prospect =
      (s.consume advance).prospect.withItem (take?.item s token) (s.consume advance).position := by
  obtain ⟨hf, hstop⟩ := h.found_cut hc
  rw [prospect, hf, hstop, hs]
  simp only [Bool.false_eq_true, if_false, prospect, Outlook.withItem, consume, hs]

theorem Steady.prospect_skipped {s : Scanner} (h : Steady s) {advance : Nat} {token : Span}
    (hc : s.rule.cut s.window s.atEnd = .token advance token) (hs : s.skipping = true) :
    { s.consume advance with skipping := false }.prospect = s.prospect := by
  obtain ⟨hf, hstop⟩ := h.found_cut hc
  rw [prospect, prospect, hf, hstop, hs]
  rfl

/-- What a step that reads nothing does to the prospect: it takes an item from the front, and is then
just behind it, or it leaves no token at hand and changes nothing. -/
inductive Takes (s : Scanner) : Option Scanned × Scanner → Prop
  | silent {t : Scanner} : t.rule.cut t.window t.atEnd = .needsMore → t.prospect = s.prospect →
      Takes s (none, t)
  | reports {t : Scanner} {item : Scanned} : s.prospect = t.prospect.withItem item t.position →
      Takes s (some item, t)

theorem Steady.takes_first {s : Scanner} (h : Steady s) (hs : s.skipping = false) :
    Takes s (take?.first s) := by
  unfold take?.first
  cases hc : s.rule.cut s.window s.atEnd with
  | needsMore => exact .silent hc rfl
  | token advance token => exact .reports (h.prospect_token hc hs)

theorem Steady.takes_take? {s : Scanner} (h : Steady s) : Takes s s.take? := by
  unfold Scanner.take?
  cases hc : s.rule.cut s.window s.atEnd with
  | needsMore => exact .silent hc rfl
  | token advance token =>
    cases hs : s.skipping with
    | false => exact .reports (h.prospect_token hc hs)
    | true =>
      have hd : Steady { s.consume advance with skipping := false } :=
        ⟨h.rule, h.sound.consume _ _⟩
      have hp := h.prospect_skipped hc hs
      have hf := hd.takes_first rfl
      simp only [if_true]
      generalize take?.first { s.consume advance with skipping := false } = r at hf
      cases hf with
      | silent hn ht => exact .silent hn (ht.trans hp)
      | reports ht => exact .reports (hp.symm.trans ht)

/-- A full buffer without a token is what the scanner throws away. -/
theorem Steady.found_thrown {s : Scanner} (h : Steady s)
    (hn : s.rule.cut s.window false = .needsMore) (hw : s.window.length = s.capacity) :
    s.rule.found s.maxSize s.skipping s.position s.pending =
        (if s.skipping then
          s.rule.found s.maxSize true (s.position + s.capacity) (s.consume s.capacity).pending
        else
          ((.oversized s.capacity, s.position + s.capacity) ::
              (s.rule.found s.maxSize true (s.position + s.capacity)
                (s.consume s.capacity).pending).1,
            (s.rule.found s.maxSize true (s.position + s.capacity)
              (s.consume s.capacity).pending).2)) ∧
      s.position + s.pending.length =
        s.position + s.capacity + (s.consume s.capacity).pending.length ∧
      (s.consume s.capacity).window = [] := by
  have hpos : 0 < s.capacity := Nat.lt_of_lt_of_le h.sound.room_pos h.sound.room_le
  have hnil : (s.consume s.capacity).window = [] := by
    change s.window.drop s.capacity = []
    rw [← hw, List.drop_length]
  have hp : (s.consume s.capacity).pending = s.source.stream := congrArg (· ++ s.source.stream) hnil
  have ht : s.pending.take s.capacity = s.window := by rw [← hw, pending, List.take_left]
  have hd : s.pending.drop s.capacity = s.source.stream := by rw [← hw, pending, List.drop_left]
  have hl : s.pending.length = s.capacity + s.source.stream.length := by
    rw [pending, List.length_append, hw]
  have hle : s.capacity ≤ s.pending.length := by omega
  have hf := @Framing.found_full s.rule s.maxSize s.pending hpos hle (ht ▸ hn) s.skipping s.position
  refine ⟨?_, by rw [hp]; omega, hnil⟩
  rw [hp, hf, ← hd]
  rfl

theorem Steady.takes_makeRoom {s : Scanner} (h : Steady s)
    (hn : s.rule.cut s.window s.atEnd = .needsMore) (he : s.atEnd = false) :
    Takes s s.makeRoom := by
  have hm := makesRoom h.sound
  generalize s.makeRoom = r at hm
  cases hm with
  | roomy _ => exact .silent hn rfl
  | grown _ _ => exact .silent hn rfl
  | skipped hw _ hs =>
    obtain ⟨hf, hstop, hnil⟩ := h.found_thrown (he ▸ hn) hw
    refine .silent ?_ ?_
    · change s.rule.cut (s.consume s.capacity).window s.atEnd = _
      rw [hnil]
      rfl
    · have hk : (s.compact.consume s.capacity).skipping = true := hs
      rw [prospect, prospect, hf, hstop, hk, hs]
      rfl
  | dropped hw _ hs =>
    obtain ⟨hf, hstop, -⟩ := h.found_thrown (he ▸ hn) hw
    refine .reports ?_
    rw [prospect, hf, hstop, hs]
    rfl

theorem prospect_fill {s t : Scanner} (hw : s.window.length < s.room) (hf : s.fill = (none, t)) :
    t.prospect = s.prospect := by
  have hr := fills hw
  rw [hf] at hr
  cases hr with
  | ended source h₁ h₂ h₃ h₄ => simp only [prospect, pending, h₁, h₂, h₃, h₄]
  | some bytes source _ h₁ h₂ _ => simp only [prospect, pending, h₁, h₂, List.append_assoc]

theorem prospect_fill_failed {s t : Scanner} {cause : IoError} (hw : s.window.length < s.room)
    (hf : s.fill = (some cause, t)) : s.prospect = t.prospect.withFailure cause := by
  have hr := fills hw
  rw [hf] at hr
  cases hr with
  | failed cause source h₁ h₂ _ =>
    rw [prospect, pending, h₁, h₂]
    rfl

/-- What a call for an item does to the prospect. -/
inductive Yields (s : Scanner) : ScanResult × Scanner → Prop
  | found {t : Scanner} {item : Scanned} : s.prospect = t.prospect.withItem item t.position →
      Yields s (.found item, t)
  | failed {t : Scanner} {cause : IoError} : s.prospect = t.prospect.withFailure cause →
      Yields s (.failed cause, t)
  | exhausted {t : Scanner} : t.rule.cut t.window t.atEnd = .needsMore → t.atEnd = true →
      t.prospect = s.prospect → Yields s (.exhausted, t)

theorem Yields.of_prospect {s t : Scanner} {r : ScanResult × Scanner} (h : Yields t r)
    (ht : t.prospect = s.prospect) : Yields s r := by
  cases h with
  | found h => exact .found (ht.symm.trans h)
  | failed h => exact .failed (ht.symm.trans h)
  | exhausted h₁ h₂ h₃ => exact .exhausted h₁ h₂ (h₃.trans ht)

/-- A turn that makes room and reads keeps the prospect, but for a failure of the read. -/
theorem Steady.turn {s t : Scanner} (h : Steady s)
    (hn : s.rule.cut s.window s.atEnd = .needsMore) (he : s.atEnd = false)
    (hm : s.makeRoom = (none, t)) :
    Steady t.fill.2 ∧ (∀ u, t.fill = (none, u) → u.prospect = s.prospect) ∧
      ∀ cause u, t.fill = (some cause, u) → s.prospect = u.prospect.withFailure cause := by
  have ha := h.takes_makeRoom hn he
  have ht := h.makeRoom
  have hk := s.makeRoom_keeps
  have hroom := lt_room_of_makeRoom h.sound hm
  rw [hm] at ha ht hk
  cases ha with
  | silent _ hp =>
    refine ⟨ht.fill hroom (hk.atEnd.trans he), ?_, ?_⟩
    · intro u hu
      exact (prospect_fill hroom hu).trans hp
    · intro cause u hu
      exact hp.symm.trans (prospect_fill_failed hroom hu)

/-- Each turn of a pull keeps the prospect, but for the item or the failure that it gives. -/
theorem Pulls.yields {s : Scanner} {r : ScanResult × Scanner} (hp : Pulls s r) (h : Steady s)
    (hn : s.rule.cut s.window s.atEnd = .needsMore) : Yields s r ∧ Steady r.2 := by
  -- a turn begins with no token at hand, and passes that on to the next one
  induction hp with
  | ended he => exact ⟨.exhausted hn he rfl, h⟩
  | full he hm =>
    have ha := h.takes_makeRoom hn he
    have hf := h.makeRoom
    rw [hm] at ha hf
    cases ha with
    | reports ho => exact ⟨.found ho, hf⟩
  | failed he hm _ hi =>
    obtain ⟨hu, -, hfail⟩ := h.turn hn he hm
    rw [hi] at hu
    exact ⟨.failed (hfail _ _ hi), hu⟩
  | found he hm _ hi ht =>
    obtain ⟨hu, hkeep, -⟩ := h.turn hn he hm
    rw [hi] at hu
    have ha := hu.takes_take?
    have hv := hu.take?
    rw [ht] at ha hv
    cases ha with
    | reports ho => exact ⟨.found ((hkeep _ hi).symm.trans ho), hv⟩
  | again he hm _ hi ht _ ih =>
    obtain ⟨hu, hkeep, -⟩ := h.turn hn he hm
    rw [hi] at hu
    have ha := hu.takes_take?
    have hv := hu.take?
    rw [ht] at ha hv
    cases ha with
    | silent hn ho =>
      obtain ⟨hg, hr⟩ := ih hv hn
      exact ⟨hg.of_prospect (ho.trans (hkeep _ hi)), hr⟩

/-- **A call for an item takes it from the front of the prospect.** -/
theorem Steady.yields_next {s : Scanner} (h : Steady s) : Yields s s.next ∧ Steady s.next.2 := by
  have ha := h.takes_take?
  have hf := h.take?
  unfold next
  rcases ht : s.take? with ⟨_ | item, t⟩
  · rw [ht] at ha hf
    cases ha with
    | silent hn ho =>
      obtain ⟨hg, hr⟩ := hf.sound.pulls.yields hf hn
      exact ⟨hg.of_prospect ho, hr⟩
  · rw [ht] at ha hf
    cases ha with
    | reports ho => exact ⟨.found ho, hf⟩

/-- At the end of the source the prospect is what is left in the window. -/
theorem Steady.prospect_exhausted {s : Scanner} (h : Steady s)
    (hn : s.rule.cut s.window s.atEnd = .needsMore) (he : s.atEnd = true) :
    s.prospect = ⟨[], [], s.takeRemaining.1, s.takeRemaining.2.position⟩ := by
  obtain ⟨hl, hst, hfa⟩ := h.sound.ended he
  have hr := h.sound.room_le
  have hp : s.pending = s.window := by rw [pending, hst, List.append_nil]
  rw [he] at hn
  rw [prospect, hp, Framing.found_rest (by change _ < s.capacity; omega) hn, hfa, takeRemaining]
  by_cases hwin : s.window = []
  · simp [hwin]
  · have hemp : s.window.isEmpty = false := by simpa using hwin
    cases hs : s.skipping with
    | true => simp [hwin, consume, hs]
    | false => simp [hwin, consume, hs]

theorem Steady.drains {s : Scanner} (h : Steady s) :
    ∃ t, Drains s s.prospect.items s.prospect.failures t ∧
      t.takeRemaining.1 = s.prospect.left ∧ t.takeRemaining.2.position = s.prospect.stop := by
  -- each call takes an item or a failure from what is still to be given
  induction hn : s.prospect.items.length + s.prospect.failures.length using
    Nat.strong_induction_on generalizing s with
  | h n ih =>
    obtain ⟨hg, hf⟩ := h.yields_next
    rcases hnext : s.next with ⟨result, t⟩
    rw [hnext] at hg hf
    cases hg with
    | found ho =>
      rw [ho] at hn ⊢
      obtain ⟨u, hu, hrest⟩ := ih _ (by rw [← hn]; simp [Outlook.withItem]) hf rfl
      exact ⟨u, .found hnext hu, hrest⟩
    | failed ho =>
      rw [ho] at hn ⊢
      obtain ⟨u, hu, hrest⟩ := ih _ (by rw [← hn]; simp [Outlook.withFailure]) hf rfl
      exact ⟨u, .failed hnext hu, hrest⟩
    | exhausted hc he ho =>
      rw [← ho, hf.prospect_exhausted hc he]
      exact ⟨t, .exhausted hnext, rfl, rfl⟩

/-- **A scanner for a stable rule finds what the rule says of its stream.** Whatever the pieces,
interruptions and failures in its script, the calls for items give the items of the whole stream, and
one failure for each failure in the script; then what is left of the stream is at hand, and all of it
is counted. -/
theorem drains_found {rule : Framing} (hr : rule.Stable) {m : Nat} (hm : 0 < capacityOf rule m)
    (source : Source) (place : Nat) :
    ∃ t, Drains (new rule m source place) (rule.found m false place source.stream).1
        source.failures t ∧
      t.takeRemaining.1 = (rule.found m false place source.stream).2 ∧
      t.takeRemaining.2.position = place + source.stream.length :=
  Steady.drains ⟨hr, new_sound hm source place⟩

end Scanner

end LogFollow
