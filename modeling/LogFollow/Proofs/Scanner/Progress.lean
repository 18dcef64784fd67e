import LogFollow.Proofs.Scanner.Safe

/-!
# A scanner makes progress

Each item that a scanner finds moves it on by one byte at least: a token uses some up, and an entry that
is too large uses up a full buffer. A scanner that finds nothing, and did not begin behind an oversized
entry, has not moved, and has all the rest of its source at hand.
-/
namespace LogFollow

namespace Scanner

variable {rule : Framing} {m place : Nat} {source : Source} {s t u : Scanner} {item : Scanned}
  {phase : Phase}

/-! ## Items -/

theorem position_le_first (s : Scanner) : s.position ≤ (take?.first s).2.position := by
  unfold take?.first
  split
  · exact Nat.le_refl _
  · exact Nat.le_add_right _ _

/-- A token uses up some bytes. -/
theorem position_lt_of_take? (hr : s.rule.Lawful) (h : s.take? = (some item, t)) :
    s.position < t.position := by
  unfold Scanner.take? at h
  split at h
  · cases h
  · next advance token hc =>
    have hpos := (hr.advances hc).1.pos
    have hlt : s.position < (s.consume advance).position := Nat.lt_add_of_pos_right hpos
    simp only at h
    split at h
    · have hle := position_le_first { s.consume advance with skipping := false }
      rw [h] at hle
      exact Nat.lt_of_lt_of_le hlt hle
    · cases h
      exact hlt

/-- An oversized entry uses up a full buffer. -/
theorem position_lt_of_makeRoom (hs : s.Sound) (h : s.makeRoom = (some item, t)) :
    s.position < t.position := by
  have hcapacity : 0 < s.capacity := Nat.lt_of_lt_of_le hs.room_pos hs.room_le
  have hmakes := makesRoom hs
  rw [h] at hmakes
  cases hmakes with
  | dropped => exact Nat.lt_add_of_pos_right hcapacity

/-- In a call a scanner never goes back. -/
theorem Held.position_le (h : Held rule m source place s) (hw : Within s phase u) :
    s.position ≤ u.position := by
  induction hw with
  | called => exact Nat.le_refl _
  | missed ht hmissed _ ih =>
    have hle := (h.within ht).1.inFile.take?.le
    rw [hmissed] at hle
    exact Nat.le_trans ih hle
  | turned ht hmade hnone _ => exact absurd hnone ((h.within ht).1.sound.room_ne_zero hmade)
  | made ht hmade _ ih =>
    have hle := (h.within ht).1.inFile.makeRoom.le
    rw [hmade] at hle
    exact Nat.le_trans ih hle
  | read ht hread ih =>
    have hle := (h.within ht).1.inFile.fill.le
    rw [hread] at hle
    exact Nat.le_trans ih hle

/-- **Each item moves the scanner on.** -/
theorem Held.position_lt_next (hr : rule.Lawful) (h : Held rule m source place s)
    (hn : s.next = (.found item, t)) : s.position < t.position := by
  obtain ⟨phase, u, hw, he⟩ := h.sound.ends_next
  have hu := (h.within hw).1
  rw [hn] at he
  refine Nat.lt_of_le_of_lt (h.position_le hw) ?_
  cases he with
  | found ht => exact position_lt_of_take? (hu.rule_eq.symm ▸ hr) ht
  | full hm => exact position_lt_of_makeRoom hu.sound hm

/-! ## Failures -/

/-- A call takes no failure from a source that has none. -/
theorem Held.failures_within (h : Held rule m source place s) (hf : s.source.failures = [])
    (hw : Within s phase u) : u.source.failures = [] := by
  induction hw with
  | called => exact hf
  | @missed t u _ hmissed _ ih =>
    have hkeeps := t.take?_keeps
    rw [hmissed] at hkeeps
    rwa [hkeeps.source]
  | turned ht hmade hnone _ => exact absurd hnone ((h.within ht).1.sound.room_ne_zero hmade)
  | @made t u _ hmade _ ih =>
    have hkeeps := t.makeRoom_keeps
    rw [hmade] at hkeeps
    rwa [hkeeps.source]
  | @read t u ht hread ih =>
    have hfills := fills (h.within ht).2.2.2
    rw [hread] at hfills
    cases hfills with
    | ended source _ _ _ hnone => exact hnone
    | some bytes source _ _ hsame _ => exact hsame.symm.trans ih

/-- Where no failure is to come, a call finds an item, or the source has run out. -/
theorem Held.next_of_whole (h : Held rule m source place s) (hf : s.source.failures = []) :
    s.next.2.source.failures = [] ∧ ∀ cause, s.next.1 ≠ .failed cause := by
  obtain ⟨phase, u, hw, he⟩ := h.sound.ends_next
  obtain ⟨hu, hready⟩ := h.within hw
  have hnone := h.failures_within hf hw
  generalize s.next = r at he
  cases he with
  | found ht | exhausted ht _ =>
    have hkeeps := u.take?_keeps
    rw [ht] at hkeeps
    exact ⟨hkeeps.source ▸ hnone, nofun⟩
  | full hm =>
    have hkeeps := u.makeRoom_keeps
    rw [hm] at hkeeps
    exact ⟨hkeeps.source ▸ hnone, nofun⟩
  | failed hfail =>
    have hfills := fills hready.2.2
    rw [hfail] at hfills
    cases hfills with
    | failed cause source _ hcause _ =>
      rw [hnone] at hcause
      cases hcause

/-! ## Nothing found -/

/-- A scanner has used up nothing since it was `s`, and is not behind an oversized entry. -/
structure Unmoved (s t : Scanner) : Prop where
  position : t.position = s.position
  pending : t.pending = s.pending
  skipping : t.skipping = false

theorem eq_of_take?_none (hs : s.skipping = false) (h : s.take? = (none, t)) : t = s := by
  unfold Scanner.take? at h
  split at h
  · exact (congrArg Prod.snd h).symm
  · simp only [hs, Bool.false_eq_true, if_false] at h
    cases h

/-- As long as a call has found nothing, the scanner has not moved. -/
theorem Held.unmoved (h : Held rule m source place s) (hs : s.skipping = false)
    (hw : Within s phase u) : Unmoved s u := by
  induction hw with
  | called => exact ⟨rfl, rfl, hs⟩
  | missed _ hmissed _ ih =>
    rw [eq_of_take?_none ih.skipping hmissed]
    exact ih
  | turned ht hmade hnone _ => exact absurd hnone ((h.within ht).1.sound.room_ne_zero hmade)
  | made ht hmade _ ih =>
    have hmakes := makesRoom (h.within ht).1.sound
    rw [hmade] at hmakes
    cases hmakes with
    | roomy => exact ⟨ih.position, ih.pending, ih.skipping⟩
    | grown => exact ⟨ih.position, ih.pending, ih.skipping⟩
    | skipped _ _ hskipping =>
      rw [ih.skipping] at hskipping
      cases hskipping
  | @read t u _ hread ih =>
    have hstays := t.fill_stays
    have hpending := t.fill_pending
    rw [hread] at hstays hpending
    exact ⟨hstays.position.trans ih.position, hpending.trans ih.pending,
      hstays.skipping.trans ih.skipping⟩

/-- **A scanner that finds nothing has all the rest at hand**, and may take it. -/
theorem Held.takeRemaining_of_exhausted (h : Held rule m source place s) (hs : s.skipping = false)
    (hn : s.next = (.exhausted, t)) :
    t.takeRemaining.1 = (if s.pending = [] then none else some s.pending) ∧
      t.takeRemaining.2.position = s.position + s.pending.length := by
  obtain ⟨phase, u, hw, he⟩ := h.sound.ends_next
  have hu := h.unmoved hs hw
  have hheld := h.next
  rw [hn] at he hheld
  cases he with
  | exhausted ht hend =>
    obtain rfl := eq_of_take?_none hu.skipping ht
    have hwindow : t.window = s.pending := by
      rw [← hu.pending, Scanner.pending, (hheld.sound.ended hend).2.1, List.append_nil]
    unfold Scanner.takeRemaining
    by_cases hnil : s.pending = []
    · rw [if_pos hnil, if_pos (by rw [hwindow, hnil]; rfl), hnil]
      exact ⟨rfl, hu.position⟩
    · rw [if_neg hnil, if_neg (by rw [hwindow]; simpa using hnil), hu.skipping, hwindow]
      refine ⟨rfl, ?_⟩
      change t.position + s.pending.length = _
      rw [hu.position]

end Scanner

end LogFollow
