import LogFollow.Proofs.Framing
import LogFollow.Proofs.Scanner.Drains

/-!
# Where the tokens of a scanner stand

The position of a scanner is the place in the file of the first byte that it has not consumed. So a token
that it finds is a slice of the file that begins at or behind the position before the call, and ends at
or before the position after it. This holds of all rules that cut a token from the front of the bytes at
hand, and of a source that fails as of one that does not.
-/
namespace LogFollow

/-- The item that a call has found. -/
def ScanResult.item? : ScanResult → Option Scanned
  | .found item => some item
  | .exhausted | .failed _ => none

namespace Scanner

/-- The scanner stands in a file: what it has not consumed are the bytes from its position on. -/
structure Over (content : Bytes) (s : Scanner) : Prop where
  rule : s.rule.CutsFront
  drop : content.drop s.position = s.pending
  le : s.position ≤ content.length

/-- What a call does to a scanner that stands in a file: it goes on in the file, and a token that it
finds is a slice between the two positions. -/
structure FindsIn (content : Bytes) (s : Scanner) (item : Option Scanned) (t : Scanner) : Prop where
  inFile : Over content t
  le : s.position ≤ t.position
  slice : ∀ bytes, item = some (.token bytes) → ∃ place : Span, s.position ≤ place.start ∧
    place.start ≤ place.stop ∧ place.stop ≤ t.position ∧
    Bytes.slice content place.start place.stop = bytes

variable {content : Bytes} {s t u : Scanner} {item : Option Scanned}

/-- A call that finds no token. -/
theorem FindsIn.of_not_token (hi : ∀ bytes, item ≠ some (.token bytes)) (h : Over content t)
    (hl : s.position ≤ t.position) : FindsIn content s item t :=
  ⟨h, hl, fun bytes hs => absurd hs (hi bytes)⟩

theorem FindsIn.of_none (h : Over content t) (hl : s.position ≤ t.position) :
    FindsIn content s none t :=
  .of_not_token (fun _ => (Option.some_ne_none _).symm) h hl

theorem FindsIn.refl (h : Over content s) : FindsIn content s none s :=
  .of_none h (Nat.le_refl _)

/-- A call without a token may be followed by another one. -/
theorem FindsIn.then {first : Option Scanned} (h : FindsIn content s first t)
    (h' : FindsIn content t item u) : FindsIn content s item u := by
  refine ⟨h'.inFile, Nat.le_trans h.le h'.le, fun bytes hi => ?_⟩
  obtain ⟨place, hstart, hplace, hstop, hs⟩ := h'.slice bytes hi
  exact ⟨place, Nat.le_trans h.le hstart, hplace, hstop, hs⟩

/-- An entry that is too large is no token. -/
theorem FindsIn.oversized (h : FindsIn content s none t) (size : Nat) :
    FindsIn content s (some (.oversized size)) t :=
  .of_not_token (fun _ => by simp) h.inFile h.le

/-- Consuming bytes at hand goes on in the file. -/
theorem Over.consume (h : Over content s) {n : Nat} (hn : n ≤ s.window.length) (skipping : Bool) :
    FindsIn content s none { s.consume n with skipping } := by
  have hdrop : content.drop (s.position + n) = s.window.drop n ++ s.source.stream := by
    rw [← List.drop_drop, h.drop, pending, List.drop_append_of_le_length hn]
  have hlen := congrArg List.length h.drop
  rw [List.length_drop, pending, List.length_append] at hlen
  have hle := h.le
  refine .of_none ⟨h.rule, hdrop, ?_⟩ (Nat.le_add_right _ _)
  change s.position + n ≤ content.length
  omega

/-- The token at the front of the window. -/
theorem Over.cut (h : Over content s) {advance : Nat} {token : Span}
    (hc : s.rule.cut s.window s.atEnd = .token advance token) :
    FindsIn content s (some (take?.item s token)) (s.consume advance) := by
  obtain ⟨hstart, hstop, hadvance⟩ := h.rule _ _ _ _ hc
  have hconsume := h.consume hadvance s.skipping
  refine ⟨hconsume.inFile, hconsume.le, fun bytes hi => ?_⟩
  unfold take?.item at hi
  split at hi
  · cases hi
  · obtain rfl := Scanned.token.inj (Option.some.inj hi)
    refine ⟨⟨s.position, s.position + token.stop⟩, Nat.le_refl _, Nat.le_add_right _ _, ?_, ?_⟩
    · exact Nat.add_le_add_left hstop _
    · rw [Bytes.slice, Bytes.slice, h.drop, hstart, Nat.add_sub_cancel_left, List.drop_zero,
        Nat.sub_zero, pending, List.take_append_of_le_length (by omega)]

theorem Over.first (h : Over content s) :
    FindsIn content s (take?.first s).1 (take?.first s).2 := by
  unfold take?.first
  split
  · exact .refl h
  · next hc => exact h.cut hc

theorem Over.take? (h : Over content s) : FindsIn content s s.take?.1 s.take?.2 := by
  unfold Scanner.take?
  split
  · exact .refl h
  · next advance token hc =>
    split
    · have hconsume := h.consume (h.rule _ _ _ _ hc).2.2 false
      exact hconsume.then hconsume.inFile.first
    · exact h.cut hc

theorem Over.makeRoom (h : Over content s) : FindsIn content s s.makeRoom.1 s.makeRoom.2 := by
  have hcompact : FindsIn content s none s.compact :=
    .of_none ⟨h.rule, h.drop, h.le⟩ (Nat.le_refl _)
  have hdropped (skipping : Bool) :=
    hcompact.then (hcompact.inFile.consume (Nat.le_refl s.compact.window.length) skipping)
  unfold Scanner.makeRoom
  simp only
  split
  · split
    · exact .of_none ⟨h.rule, h.drop, h.le⟩ (Nat.le_refl _)
    · split
      · exact hdropped _
      · exact (hdropped true).oversized _
  · exact hcompact

/-- Reading uses up nothing. -/
theorem fill_pending (s : Scanner) : s.fill.2.pending = s.pending := by
  unfold Scanner.fill pending
  rw [Source.stream_read s.source (s.room - s.window.length)]
  rcases s.source.read (s.room - s.window.length) with ⟨⟨_ | _⟩ | _ | _, source⟩
  · rfl
  · exact List.append_assoc _ _ _
  · rfl
  · rfl

/-- What reading leaves as it was. -/
structure Stays (s t : Scanner) : Prop where
  rule : t.rule = s.rule
  position : t.position = s.position
  skipping : t.skipping = s.skipping

theorem fill_stays (s : Scanner) : Stays s s.fill.2 := by
  unfold Scanner.fill
  rcases s.source.read (s.room - s.window.length) with ⟨⟨_ | _⟩ | _ | _, source⟩ <;>
    exact ⟨rfl, rfl, rfl⟩

/-- Reading does not move the scanner. -/
theorem Over.fill (h : Over content s) : FindsIn content s none s.fill.2 := by
  have hstays := s.fill_stays
  refine .of_none ⟨?_, ?_, ?_⟩ ?_
  · rw [hstays.rule]
    exact h.rule
  · rw [hstays.position, fill_pending]
    exact h.drop
  · rw [hstays.position]
    exact h.le
  · exact Nat.le_of_eq hstays.position.symm

theorem Over.pull (h : Over content s) (fuel : Nat) :
    FindsIn content s (pull fuel s).1.item? (pull fuel s).2 := by
  induction fuel generalizing s with
  | zero => exact .refl h
  | succ fuel ih =>
    have hroom := h.makeRoom
    rw [Scanner.pull]
    split
    · exact .refl h
    · generalize s.makeRoom = made at hroom ⊢
      obtain ⟨_ | item, t⟩ := made
      · have hfill := hroom.then hroom.inFile.fill
        simp only at hfill ⊢
        split
        · exact hroom.then (ih hroom.inFile)
        · generalize t.fill = filled at hfill ⊢
          obtain ⟨_ | cause, u⟩ := filled
          · have htake := hfill.then hfill.inFile.take?
            simp only at htake ⊢
            generalize u.take? = taken at htake ⊢
            obtain ⟨_ | item, v⟩ := taken
            · exact htake.then (ih htake.inFile)
            · exact htake
          · exact hfill
      · exact hroom

/-- **A token is a slice of the file between the positions before and after it is found.** -/
theorem Over.next (h : Over content s) : FindsIn content s s.next.1.item? s.next.2 := by
  have htake := h.take?
  unfold Scanner.next
  generalize s.take? = taken at htake ⊢
  obtain ⟨_ | item, t⟩ := taken
  · exact htake.then (htake.inFile.pull _)
  · exact htake

/-- What is left in the end stands behind the last token. -/
theorem Over.takeRemaining (h : Over content s) :
    FindsIn content s (s.takeRemaining.1.map .token) s.takeRemaining.2 := by
  have hall := h.consume (Nat.le_refl _)
  unfold Scanner.takeRemaining
  split
  · exact .refl h
  · simp only
    split
    · exact hall false
    · refine ⟨(hall s.skipping).inFile, (hall s.skipping).le, fun bytes hi => ?_⟩
      obtain rfl := Scanned.token.inj (Option.some.inj hi)
      refine ⟨⟨s.position, s.position + s.window.length⟩, Nat.le_refl _, Nat.le_add_right _ _,
        Nat.le_refl _, ?_⟩
      rw [Bytes.slice, h.drop, Nat.add_sub_cancel_left, pending, List.take_left]

end Scanner

end LogFollow
