import LogFollow.Proofs.Source
import LogFollow.Scanner

/-!
# What a scanner does between two items

`Scanner.pull` makes room, reads and looks for a token until one of them has a result, with a fuel
that bounds its turns. This module says which bounds on the buffer hold all the time, and that the fuel
never runs out: a pull is a finite row of turns, each of which gives its result or is followed by the
next. All of it holds of every framing rule, for a buffer that has room for a byte at least. A buffer
that has none is one whose capacity has wrapped; it is never read into, and the turns have no end.
-/
namespace LogFollow

/-- The greatest token and the look-ahead together have a size. -/
def Framing.Sized (rule : Framing) (m : Nat) : Prop := m + rule.lookahead < Scanner.sizes

instance (rule : Framing) (m : Nat) : Decidable (rule.Sized m) := Nat.decLt _ _

namespace Scanner

theorem capacityOf_of_sized {rule : Framing} {m : Nat} (h : rule.Sized m) :
    capacityOf rule m = m + rule.lookahead := Nat.mod_eq_of_lt h

/-- The bounds on the buffer that every step keeps. At its end the source has nothing left, and the
read that has found it there had room. -/
structure Sound (s : Scanner) : Prop where
  room_pos : 0 < s.room
  room_le : s.room ≤ s.capacity
  window_le : s.window.length ≤ s.room
  ended : s.atEnd = true →
    s.window.length < s.room ∧ s.source.stream = [] ∧ s.source.failures = []

theorem new_sound {rule : Framing} {m : Nat} (h : 0 < capacityOf rule m) (source : Source)
    (position : Nat) : Sound (new rule m source position) where
  room_pos := by
    change 0 < min initialRoom (capacityOf rule m)
    have : 0 < initialRoom := by decide
    omega
  room_le := Nat.min_le_right _ _
  window_le := Nat.zero_le _
  ended h := absurd h Bool.false_ne_true

/-- Using up bytes keeps the bounds, whatever becomes of the flag. -/
theorem Sound.consume {s : Scanner} (h : Sound s) (n : Nat) (skipping : Bool) :
    Sound { s.consume n with skipping } where
  room_pos := h.room_pos
  room_le := h.room_le
  window_le := by
    change (s.window.drop n).length ≤ s.room
    have hw := h.window_le
    rw [List.length_drop]
    omega
  ended := by
    intro he
    obtain ⟨hw, hr⟩ := h.ended he
    refine ⟨?_, hr⟩
    change (s.window.drop n).length < s.room
    rw [List.length_drop]
    omega

theorem Sound.first {s : Scanner} (h : Sound s) : Sound (take?.first s).2 := by
  unfold take?.first
  split
  · exact h
  · exact h.consume _ s.skipping

theorem Sound.take? {s : Scanner} (h : Sound s) : Sound s.take?.2 := by
  unfold Scanner.take?
  split
  · exact h
  · split
    · exact (h.consume _ false).first
    · exact h.consume _ s.skipping

/-- What making room can do: nothing, let the buffer grow, or throw a full buffer away. -/
inductive MakesRoom (s : Scanner) : Option Scanned × Scanner → Prop
  | roomy : s.window.length < s.room → MakesRoom s (none, s.compact)
  | grown : s.window.length = s.room → s.room < s.capacity →
      MakesRoom s (none, { s.compact with room := min (2 * s.room) s.capacity })
  | skipped : s.window.length = s.capacity → s.room = s.capacity → s.skipping = true →
      MakesRoom s (none, s.compact.consume s.capacity)
  | dropped : s.window.length = s.capacity → s.room = s.capacity → s.skipping = false →
      MakesRoom s
        (some (.oversized s.capacity), { s.compact.consume s.capacity with skipping := true })

theorem makesRoom {s : Scanner} (h : Sound s) : MakesRoom s s.makeRoom := by
  have hl := h.room_le
  have hw := h.window_le
  unfold makeRoom
  change MakesRoom s (if s.window.length = s.room then _ else _)
  by_cases hfull : s.window.length = s.room
  · rw [if_pos hfull]
    change MakesRoom s (if s.room < s.capacity then _ else _)
    by_cases hgrow : s.room < s.capacity
    · rw [if_pos hgrow]
      exact .grown hfull hgrow
    · have hc : s.room = s.capacity := by omega
      have hwc : s.compact.window.length = s.capacity := hfull.trans hc
      rw [if_neg hgrow, hwc]
      change MakesRoom s (if s.skipping then _ else _)
      cases hs : s.skipping with
      | true => exact .skipped hwc hc hs
      | false => exact .dropped hwc hc hs
  · rw [if_neg hfull]
    exact .roomy (by omega)

theorem Sound.makeRoom {s : Scanner} (h : Sound s) : Sound s.makeRoom.2 := by
  have hm := makesRoom h
  generalize s.makeRoom = r at hm
  have hp := h.room_pos
  cases hm with
  | roomy hw => exact ⟨h.room_pos, h.room_le, h.window_le, h.ended⟩
  | grown hw hc =>
    refine ⟨?_, Nat.min_le_right _ _, ?_, ?_⟩
    · change 0 < min (2 * s.room) s.capacity
      omega
    · change s.window.length ≤ min (2 * s.room) s.capacity
      omega
    · intro he
      have := (h.ended he).1
      omega
  | skipped hw hc hs =>
    exact Sound.consume (s := s.compact) ⟨h.room_pos, h.room_le, h.window_le, h.ended⟩ _ s.skipping
  | dropped hw hc hs =>
    exact Sound.consume (s := s.compact) ⟨h.room_pos, h.room_le, h.window_le, h.ended⟩ _ true

/-- When nothing is reported there is room afterwards. -/
theorem lt_room_of_makeRoom {s t : Scanner} (h : Sound s) (hm : s.makeRoom = (none, t)) :
    t.window.length < t.room := by
  have hr := makesRoom h
  rw [hm] at hr
  have hp := h.room_pos
  cases hr with
  | roomy hw => exact hw
  | grown hw hc =>
    change s.window.length < min (2 * s.room) s.capacity
    omega
  | skipped hw hc hs =>
    change (s.window.drop s.capacity).length < s.room
    rw [List.length_drop]
    omega

/-- Making room leaves some. -/
theorem Sound.room_ne_zero {s t : Scanner} (h : Sound s) (hm : s.makeRoom = (none, t)) :
    t.room ≠ 0 := by
  have hpos := h.makeRoom.room_pos
  rw [hm] at hpos
  exact Nat.ne_of_gt hpos

/-- What a read into the buffer can do. -/
inductive Fills (s : Scanner) : Option IoError × Scanner → Prop
  | ended (source : Source) : s.source.stream = [] → s.source.failures = [] →
      source.stream = [] → source.failures = [] → Fills s (none, { s with source, atEnd := true })
  | some (bytes : Bytes) (source : Source) : s.window.length + bytes.length ≤ s.room →
      s.source.stream = bytes ++ source.stream → s.source.failures = source.failures →
      source.work < s.source.work → Fills s (none, { s with source, window := s.window ++ bytes })
  | failed (cause : IoError) (source : Source) : s.source.stream = source.stream →
      s.source.failures = cause :: source.failures → source.work < s.source.work →
      Fills s (some cause, { s with source })

theorem fills {s : Scanner} (h : s.window.length < s.room) : Fills s s.fill := by
  have hm := s.source.meets_read (n := s.room - s.window.length) (by omega)
  unfold fill
  generalize s.source.read (s.room - s.window.length) = r at hm
  obtain ⟨result, source⟩ := r
  cases hm with
  | ended h₁ h₂ h₃ h₄ => exact .ended source h₁ h₂ h₃ h₄
  | some bytes hb hl h₁ h₂ h₃ =>
    obtain ⟨b, rest, rfl⟩ := List.exists_cons_of_ne_nil hb
    exact .some (b :: rest) source (by omega) h₁ h₂ h₃
  | interrupted h₁ h₂ h₃ =>
    have hf := Fills.some (s := s) [] source (Nat.le_of_lt h) h₁ h₂ h₃
    rwa [List.append_nil] at hf
  | failed cause h₁ h₂ h₃ => exact .failed cause source h₁ h₂ h₃

theorem Sound.fill {s : Scanner} (h : Sound s) (hw : s.window.length < s.room)
    (he : s.atEnd = false) : Sound s.fill.2 := by
  have hf := fills hw
  generalize s.fill = r at hf
  cases hf with
  | ended source h₁ h₂ h₃ h₄ => exact ⟨h.room_pos, h.room_le, h.window_le, fun _ => ⟨hw, h₃, h₄⟩⟩
  | some bytes source hl h₁ h₂ h₃ =>
    refine ⟨h.room_pos, h.room_le, ?_, ?_⟩
    · change (s.window ++ bytes).length ≤ s.room
      rwa [List.length_append]
    · intro h'
      exact absurd (he.symm.trans h') (by decide)
  | failed cause source h₁ h₂ h₃ =>
    exact ⟨h.room_pos, h.room_le, h.window_le, fun h' => absurd (he.symm.trans h') (by decide)⟩

/-- What no step but a read touches. -/
structure Keeps (s t : Scanner) : Prop where
  rule : t.rule = s.rule
  maxSize : t.maxSize = s.maxSize
  source : t.source = s.source
  atEnd : t.atEnd = s.atEnd

theorem makeRoom_keeps (s : Scanner) : Keeps s s.makeRoom.2 := by
  unfold makeRoom
  simp only
  split
  · split
    · exact ⟨rfl, rfl, rfl, rfl⟩
    · split <;> exact ⟨rfl, rfl, rfl, rfl⟩
  · exact ⟨rfl, rfl, rfl, rfl⟩

theorem first_keeps (s : Scanner) : Keeps s (take?.first s).2 := by
  unfold take?.first
  split <;> exact ⟨rfl, rfl, rfl, rfl⟩

theorem take?_keeps (s : Scanner) : Keeps s s.take?.2 := by
  unfold take?
  split
  · exact ⟨rfl, rfl, rfl, rfl⟩
  · next advance _ _ =>
    split
    · have h := first_keeps { s.consume advance with skipping := false }
      exact ⟨h.rule, h.maxSize, h.source, h.atEnd⟩
    · exact ⟨rfl, rfl, rfl, rfl⟩

theorem fill_rule {s : Scanner} (h : s.window.length < s.room) :
    s.fill.2.rule = s.rule ∧ s.fill.2.maxSize = s.maxSize := by
  have hf := fills h
  generalize s.fill = r at hf
  cases hf <;> exact ⟨rfl, rfl⟩

/-- The turns of a pull. Each makes room, reads once and looks for a token. -/
inductive Pulls : Scanner → ScanResult × Scanner → Prop
  | ended {s : Scanner} : s.atEnd = true → Pulls s (.exhausted, s)
  | full {s t : Scanner} {item : Scanned} : s.atEnd = false → s.makeRoom = (some item, t) →
      Pulls s (.found item, t)
  | failed {s t u : Scanner} {cause : IoError} : s.atEnd = false → s.makeRoom = (none, t) →
      t.room ≠ 0 → t.fill = (some cause, u) → Pulls s (.failed cause, u)
  | found {s t u v : Scanner} {item : Scanned} : s.atEnd = false → s.makeRoom = (none, t) →
      t.room ≠ 0 → t.fill = (none, u) → u.take? = (some item, v) → Pulls s (.found item, v)
  | again {s t u v : Scanner} {r : ScanResult × Scanner} : s.atEnd = false →
      s.makeRoom = (none, t) → t.room ≠ 0 → t.fill = (none, u) → u.take? = (none, v) → Pulls v r →
      Pulls s r

/-- A turn that reads leaves less to read, or finds the end of the source. -/
theorem fill_progress {s t : Scanner} (h : s.window.length < s.room) (hf : s.fill = (none, t)) :
    t.atEnd = true ∨ t.source.work < s.source.work := by
  have hr := fills h
  rw [hf] at hr
  cases hr with
  | ended source h₁ h₂ h₃ h₄ => exact .inl rfl
  | some bytes source hl h₁ h₂ h₃ => exact .inr h₃

/-- **The fuel of a pull never runs out.** -/
theorem pulls_pull (fuel : Nat) (s : Scanner) (h : Sound s)
    (hf : s.source.work + 2 ≤ fuel ∨ (s.atEnd = true ∧ 1 ≤ fuel)) : Pulls s (pull fuel s) := by
  induction fuel generalizing s with
  | zero => omega
  | succ fuel ih =>
    cases he : s.atEnd with
    | true =>
      rw [pull, if_pos he]
      exact .ended he
    | false =>
      have hwork : s.source.work + 1 ≤ fuel := by
        rcases hf with hf | ⟨hf, -⟩
        · omega
        · exact absurd (he.symm.trans hf) (by decide)
      have hsm := h.makeRoom
      have hk := s.makeRoom_keeps
      rw [pull, if_neg (by simp [he])]
      rcases hm : s.makeRoom with ⟨_ | item, t⟩
      · rw [hm] at hsm hk
        have hroom := lt_room_of_makeRoom h hm
        have hsf := hsm.fill hroom (hk.atEnd.trans he)
        have hpos := h.room_ne_zero hm
        rcases hfi : t.fill with ⟨_ | cause, u⟩
        · rw [hfi] at hsf
          have hst := hsf.take?
          have hku := u.take?_keeps
          rcases ht : u.take? with ⟨_ | item, v⟩
          · rw [ht] at hst hku
            simp only [hfi, ht, if_neg hpos]
            refine .again he hm hpos hfi ht (ih v hst ?_)
            rcases fill_progress hroom hfi with hp | hp
            · exact .inr ⟨hku.atEnd.trans hp, by omega⟩
            · left
              rw [show t.source = s.source from hk.source] at hp
              rw [show v.source = u.source from hku.source]
              omega
          · simp only [hfi, ht, if_neg hpos]
            exact .found he hm hpos hfi ht
        · simp only [hfi, if_neg hpos]
          exact .failed he hm hpos hfi
      · exact .full he hm

/-- The work of a scanner is enough. -/
theorem Sound.pulls {s : Scanner} (h : Sound s) : Pulls s (pull s.work s) := by
  have hwork : s.work = s.source.work + 2 := if_neg (Nat.ne_of_gt h.room_pos)
  exact pulls_pull s.work s h (.inl (Nat.le_of_eq hwork.symm))

theorem fill_source (s : Scanner) :
    s.fill.2.source = (s.source.read (s.room - s.window.length)).2 := by
  unfold fill
  rcases s.source.read (s.room - s.window.length) with ⟨_ | _ | _, source⟩
  · next bytes => cases bytes <;> rfl
  · rfl
  · rfl

theorem pull_source {P : Source → Prop} (hp : ∀ source n, P source → P (source.read n).2)
    (fuel : Nat) (s : Scanner) (h : P s.source) : P (pull fuel s).2.source := by
  induction fuel generalizing s with
  | zero => exact h
  | succ fuel ih =>
    have hm : P s.makeRoom.2.source := by rwa [s.makeRoom_keeps.source]
    have hf : P s.makeRoom.2.fill.2.source := by
      rw [fill_source]
      exact hp _ _ hm
    have ht : P s.makeRoom.2.fill.2.take?.2.source := by rwa [(take?_keeps _).source]
    unfold pull
    split
    · exact h
    · split
      · next item t he => rwa [he] at hm
      · next t he =>
        rw [he] at hf ht
        split
        · exact ih t (by rwa [he] at hm)
        · split
          · next cause u hu => rwa [hu] at hf
          · next u hu =>
            rw [hu] at ht
            split
            · next item v hv => rwa [hv] at ht
            · next v hv =>
              rw [hv] at ht
              exact ih v ht

/-- What every read keeps of a source, a call for an item keeps of the source of its scanner. -/
theorem next_source {P : Source → Prop} (hp : ∀ source n, P source → P (source.read n).2)
    (s : Scanner) (h : P s.source) : P s.next.2.source := by
  have ht : P s.take?.2.source := by rwa [s.take?_keeps.source]
  unfold next
  split
  · next item t he => rwa [he] at ht
  · next t he =>
    rw [he] at ht
    exact pull_source hp t.work t ht

end Scanner
end LogFollow
