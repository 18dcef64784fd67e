import LogFollow.Proofs.Rules
import LogFollow.Proofs.Scanner.Places

/-!
# A scanner is safe

Whatever a source delivers and in whatever order a scanner is called, its buffer stays within bounds, it
asks its source for bytes only when it has room for some, and every byte that was read is counted once: it
was used up, or it is at hand. A call for an item passes through states that are named here, with what the
scanner does next in each; it passes through finitely many. Only a buffer whose capacity has wrapped to
nothing is left out: the second call for an item passes through the same states again and again.
-/
namespace LogFollow

/-- The bytes of a token. An entry that is too large has none. -/
def Scanned.bytes : Scanned → Bytes
  | .token bytes => bytes
  | .oversized _ => []

namespace Scanner

/-! ## The states of a call -/

/-- What a scanner does next in a call for an item. -/
inductive Phase
  /-- It looks for a token among the bytes at hand. -/
  | looking
  /-- It makes room for more bytes. -/
  | making
  /-- It asks its source for bytes. -/
  | reading

/-- The states that a call for an item passes. -/
inductive Within (s : Scanner) : Phase → Scanner → Prop
  | called : Within s .looking s
  | missed {t u : Scanner} : Within s .looking t → t.take? = (none, u) → u.atEnd = false →
      Within s .making u
  | turned {t u : Scanner} : Within s .making t → t.makeRoom = (none, u) → u.room = 0 →
      Within s .looking u
  | made {t u : Scanner} : Within s .making t → t.makeRoom = (none, u) → u.room ≠ 0 →
      Within s .reading u
  | read {t u : Scanner} : Within s .reading t → t.fill = (none, u) → Within s .looking u

/-- How a call for an item ends. -/
inductive Ends : Phase → Scanner → ScanResult × Scanner → Prop
  | found {s t : Scanner} {item : Scanned} : s.take? = (some item, t) →
      Ends .looking s (.found item, t)
  | exhausted {s t : Scanner} : s.take? = (none, t) → t.atEnd = true → Ends .looking s (.exhausted, t)
  | full {s t : Scanner} {item : Scanned} : s.makeRoom = (some item, t) →
      Ends .making s (.found item, t)
  | failed {s t : Scanner} {cause : IoError} : s.fill = (some cause, t) →
      Ends .reading s (.failed cause, t)

theorem Pulls.ends {s t u : Scanner} {r : ScanResult × Scanner} (hp : Pulls u r)
    (ht : Within s .looking t) (hmissed : t.take? = (none, u)) :
    ∃ phase v, Within s phase v ∧ Ends phase v r := by
  induction hp generalizing t with
  | ended he => exact ⟨_, t, ht, .exhausted hmissed he⟩
  | full he hm => exact ⟨_, _, .missed ht hmissed he, .full hm⟩
  | failed he hm hpos hf => exact ⟨_, _, .made (.missed ht hmissed he) hm hpos, .failed hf⟩
  | found he hm hpos hf ht' =>
    exact ⟨_, _, .read (.made (.missed ht hmissed he) hm hpos) hf, .found ht'⟩
  | again he hm hpos hf ht' _ ih => exact ih (.read (.made (.missed ht hmissed he) hm hpos) hf) ht'

/-- **A call for an item returns**: it ends after finitely many steps. -/
theorem Sound.ends_next {s : Scanner} (h : s.Sound) : ∃ phase u, Within s phase u ∧ Ends phase u s.next := by
  unfold next
  cases ht : s.take? with
  | mk taken t =>
    cases taken with
    | some item => exact ⟨_, s, .called, .found ht⟩
    | none =>
      have hsound : t.Sound := by
        have hs := h.take?
        rwa [ht] at hs
      exact hsound.pulls.ends .called ht

/-! ## A buffer without room -/

/-- The buffer may not hold a byte. -/
structure Roomless (s : Scanner) : Prop where
  room : s.room = 0
  capacity : s.capacity = 0
  start : s.start = 0
  window : s.window = []
  atEnd : s.atEnd = false

namespace Roomless

variable {s t : Scanner}

theorem skip (h : s.Roomless) : Roomless { s with skipping := true } :=
  ⟨h.room, h.capacity, h.start, h.window, h.atEnd⟩

theorem take? (h : s.Roomless) : s.take? = (none, s) := by
  unfold Scanner.take?
  rw [h.window]
  rfl

/-- An empty buffer is full. It is reported as an entry that is too large, but only once. -/
theorem makeRoom (h : s.Roomless) :
    s.makeRoom =
      if s.skipping then (none, s) else (some (.oversized 0), { s with skipping := true }) := by
  have hfull : ¬ s.room < s.capacity := by rw [h.room, h.capacity]; exact Nat.lt_irrefl 0
  have hlen : s.window.length = 0 := List.length_eq_zero_iff.mpr h.window
  have hsame : s.compact.consume s.window.length = s := by
    rw [consume, compact, h.window]
    cases s
    cases h.window
    cases h.start
    rfl
  unfold Scanner.makeRoom
  change (if s.window.length = s.room then _ else _) = _
  rw [if_pos (hlen.trans h.room.symm)]
  change (if s.room < s.capacity then _ else _) = _
  rw [if_neg hfull]
  change (if s.skipping then (none, s.compact.consume s.window.length) else
    (some (Scanned.oversized s.window.length),
      { s.compact.consume s.window.length with skipping := true })) = _
  rw [hsame, hlen]

/-- The turns lead back to where they began. -/
theorem within {phase : Phase} (h : s.Roomless) (hw : Within s phase t) :
    t = s ∧ phase ≠ .reading := by
  have hstill : ∀ u, s.makeRoom = (none, u) → u = s := by
    intro u hu
    rw [h.makeRoom] at hu
    split at hu
    · exact (Prod.mk.inj hu).2.symm
    · cases hu
  induction hw with
  | called => exact ⟨rfl, nofun⟩
  | missed _ ht _ ih =>
    obtain ⟨rfl, -⟩ := ih
    rw [h.take?] at ht
    exact ⟨(Prod.mk.inj ht).2.symm, nofun⟩
  | turned _ hm _ ih =>
    obtain ⟨rfl, -⟩ := ih
    exact ⟨hstill _ hm, nofun⟩
  | made _ hm hroom ih =>
    obtain ⟨rfl, -⟩ := ih
    obtain rfl := hstill _ hm
    exact absurd h.room hroom
  | read _ _ ih => exact absurd rfl ih.2

/-- Nothing is read before the report is made. -/
theorem next (h : s.Roomless) (hs : s.skipping = false) :
    s.next = (.found (.oversized 0), { s with skipping := true }) := by
  have hmake := h.makeRoom
  rw [hs, if_neg Bool.false_ne_true] at hmake
  have hwork : s.work = 4611686018427387903 + 1 := if_pos h.room
  rw [Scanner.next, h.take?]
  change pull s.work s = _
  rw [hwork, pull, if_neg (Bool.eq_false_iff.mp h.atEnd), hmake]

end Roomless

/-! ## What holds in all states -/

/-- A file in which the bytes of a source stand from a place on. -/
def fileOf (source : Source) (place : Nat) : Bytes := List.replicate place 0 ++ source.stream

/-- What every step keeps. -/
structure Held (rule : Framing) (m : Nat) (source : Source) (place : Nat) (s : Scanner) : Prop where
  rule_eq : s.rule = rule
  maxSize_eq : s.maxSize = m
  sound : s.Sound
  buffer : s.start + s.window.length ≤ s.room
  inFile : Over (fileOf source place) s
  place_le : place ≤ s.position
  sourcePosition : s.source.position + s.source.stream.length = source.position + source.stream.length

variable {rule : Framing} {m place : Nat} {source : Source} {s t : Scanner}

theorem held_new (hr : rule.CutsFront) (hm : 0 < capacityOf rule m) (source : Source) (place : Nat) :
    Held rule m source place (new rule m source place) where
  rule_eq := rfl
  maxSize_eq := rfl
  sound := new_sound hm source place
  buffer := Nat.zero_le _
  inFile := by
    refine ⟨hr, ?_, ?_⟩
    · change (fileOf source place).drop place = [] ++ source.stream
      exact List.drop_left' List.length_replicate
    · change place ≤ (fileOf source place).length
      rw [fileOf, List.length_append, List.length_replicate]
      exact Nat.le_add_right _ _
  place_le := Nat.le_refl _
  sourcePosition := rfl

/-! ## Steps -/

theorem buffer_consume (h : s.start + s.window.length ≤ s.room) (n : Nat) :
    (s.consume n).start + (s.consume n).window.length ≤ s.room := by
  change (if (s.window.drop n).isEmpty then 0 else s.start + n) + (s.window.drop n).length ≤ s.room
  split
  · next hempty =>
    rw [List.isEmpty_iff.mp hempty]
    exact Nat.zero_le _
  · next hne =>
    have hlen : (s.window.drop n).length ≠ 0 := fun h0 =>
      hne (List.isEmpty_iff.mpr (List.length_eq_zero_iff.mp h0))
    rw [List.length_drop] at hlen ⊢
    omega

theorem first_buffer (h : s.start + s.window.length ≤ s.room) :
    (take?.first s).2.start + (take?.first s).2.window.length ≤ (take?.first s).2.room := by
  unfold take?.first
  split
  · exact h
  · exact buffer_consume h _

theorem take?_buffer (h : s.start + s.window.length ≤ s.room) :
    s.take?.2.start + s.take?.2.window.length ≤ s.take?.2.room := by
  unfold take?
  split
  · exact h
  · next advance _ _ =>
    split
    · exact first_buffer (s := { s.consume advance with skipping := false }) (buffer_consume h _)
    · exact buffer_consume h _

theorem Held.take? (h : Held rule m source place s) : Held rule m source place s.take?.2 := by
  have hk := s.take?_keeps
  have hf := h.inFile.take?
  refine ⟨hk.rule.trans h.rule_eq, hk.maxSize.trans h.maxSize_eq, h.sound.take?, take?_buffer h.buffer,
    hf.inFile, Nat.le_trans h.place_le hf.le, ?_⟩
  rw [hk.source]
  exact h.sourcePosition

/-- What is made room in begins at the front of the buffer. -/
theorem start_makeRoom (h : s.Sound) : s.makeRoom.2.start = 0 := by
  have hm := makesRoom h
  generalize s.makeRoom = made at hm
  have hconsumed (hw : s.window.length = s.capacity) : (s.compact.consume s.capacity).start = 0 := by
    change (if (s.window.drop s.capacity).isEmpty then 0 else 0 + s.capacity) = 0
    rw [← hw, List.drop_length]
    rfl
  cases hm with
  | roomy => rfl
  | grown => rfl
  | skipped hw => exact hconsumed hw
  | dropped hw => exact hconsumed hw

theorem Held.makeRoom (h : Held rule m source place s) : Held rule m source place s.makeRoom.2 := by
  have hk := s.makeRoom_keeps
  have hf := h.inFile.makeRoom
  refine ⟨hk.rule.trans h.rule_eq, hk.maxSize.trans h.maxSize_eq, h.sound.makeRoom, ?_, hf.inFile,
    Nat.le_trans h.place_le hf.le, ?_⟩
  · rw [start_makeRoom h.sound, Nat.zero_add]
    exact h.sound.makeRoom.window_le
  · rw [hk.source]
    exact h.sourcePosition

theorem Held.fill (h : Held rule m source place s) (he : s.atEnd = false) (hstart : s.start = 0)
    (hroom : s.window.length < s.room) : Held rule m source place s.fill.2 := by
  have hf := h.inFile.fill
  have hsound := h.sound.fill hroom he
  obtain ⟨hrule, hmaxSize⟩ := fill_rule hroom
  refine ⟨hrule.trans h.rule_eq, hmaxSize.trans h.maxSize_eq, hsound, ?_, hf.inFile,
    Nat.le_trans h.place_le hf.le, ?_⟩
  · have hstart' : s.fill.2.start = 0 := by
      have hfills := fills hroom
      generalize s.fill = filled at hfills
      cases hfills <;> exact hstart
    rw [hstart', Nat.zero_add]
    exact hsound.window_le
  · rw [fill_source, Source.position_add_stream_read]
    exact h.sourcePosition

theorem Held.takeRemaining (h : Held rule m source place s) :
    Held rule m source place s.takeRemaining.2 := by
  have hf := h.inFile.takeRemaining
  have hle := Nat.le_trans h.place_le hf.le
  have hin := hf.inFile
  unfold Scanner.takeRemaining at hle hin ⊢
  split
  · exact h
  · next hne =>
    rw [if_neg hne] at hle hin
    simp only at hle hin ⊢
    have hdropped := h.sound.consume s.window.length
    split
    · next hs =>
      rw [if_pos hs] at hle hin
      exact ⟨h.rule_eq, h.maxSize_eq, hdropped false, buffer_consume h.buffer _, hin, hle,
        h.sourcePosition⟩
    · next hs =>
      rw [if_neg hs] at hle hin
      exact ⟨h.rule_eq, h.maxSize_eq, hdropped s.skipping, buffer_consume h.buffer _, hin, hle,
        h.sourcePosition⟩

/-- What holds of a scanner before it takes its next step. -/
def Ready : Phase → Scanner → Prop
  | .looking, _ => True
  | .making, s => s.atEnd = false
  | .reading, s => s.atEnd = false ∧ s.start = 0 ∧ s.window.length < s.room

/-- **All states of a call are safe, and when the source is asked for bytes there is room for some.** -/
theorem Held.within {phase : Phase} {u : Scanner} (h : Held rule m source place s)
    (hw : Within s phase u) : Held rule m source place u ∧ Ready phase u := by
  induction hw with
  | called => exact ⟨h, trivial⟩
  | missed _ ht he ih =>
    have htake := ih.1.take?
    rw [ht] at htake
    exact ⟨htake, he⟩
  | turned _ hm hnone ih => exact absurd hnone (ih.1.sound.room_ne_zero hm)
  | @made t u _ hm _ ih =>
    obtain ⟨ht, he⟩ := ih
    have hmake := ht.makeRoom
    have hkeeps := t.makeRoom_keeps
    have hstart := start_makeRoom ht.sound
    rw [hm] at hmake hkeeps hstart
    exact ⟨hmake, hkeeps.atEnd.trans he, hstart, lt_room_of_makeRoom ht.sound hm⟩
  | read _ hf ih =>
    obtain ⟨ht, he, hstart, hroom⟩ := ih
    have hfill := ht.fill he hstart hroom
    rw [hf] at hfill
    exact ⟨hfill, trivial⟩

theorem Held.ends {phase : Phase} {r : ScanResult × Scanner} (h : Held rule m source place s)
    (hready : Ready phase s) (he : Ends phase s r) : Held rule m source place r.2 := by
  cases he with
  | found ht | exhausted ht _ =>
    have htake := h.take?
    rwa [ht] at htake
  | full hm =>
    have hmake := h.makeRoom
    rwa [hm] at hmake
  | failed hf =>
    obtain ⟨he, hstart, hroom⟩ := hready
    have hfill := h.fill he hstart hroom
    rwa [hf] at hfill

theorem Held.next (h : Held rule m source place s) : Held rule m source place s.next.2 := by
  obtain ⟨phase, u, hw, he⟩ := h.sound.ends_next
  obtain ⟨hu, hready⟩ := h.within hw
  exact hu.ends hready he

/-! ## Tokens -/

/-- A scanner that is not behind an oversized entry has given bytes, and those that it has not given are
still to come. -/
structure Gives (s : Scanner) (bytes : Bytes) (t : Scanner) : Prop where
  pending : s.pending = bytes ++ t.pending
  skipping : t.skipping = false

theorem Gives.nothing (hs : s.skipping = false) : Gives s [] s := ⟨rfl, hs⟩

theorem Gives.append {u : Scanner} {bytes more : Bytes} (h : Gives s bytes t) (h' : Gives t more u) :
    Gives s (bytes ++ more) u :=
  ⟨by rw [h.pending, h'.pending, List.append_assoc], h'.skipping⟩

/-- A call to a scanner. -/
inductive Call
  /-- Asks for the next item. -/
  | next
  /-- Takes what is at hand and forms no token. -/
  | remaining
deriving DecidableEq, Repr

/-- What a call gives. -/
inductive Answer
  | scanned (result : ScanResult)
  | remaining (bytes : Option Bytes)
deriving DecidableEq, Repr

namespace Answer

/-- The bytes that an answer hands out. -/
def bytes : Answer → Bytes
  | scanned result => (result.item?.map Scanned.bytes).getD []
  | remaining bytes => bytes.getD []

end Answer

/-- Answers a call. -/
def call (s : Scanner) : Call → Answer × Scanner
  | .next => (.scanned s.next.1, s.next.2)
  | .remaining => (.remaining s.takeRemaining.1, s.takeRemaining.2)

/-- Answers calls, one after another. -/
def callAll (s : Scanner) : List Call → List Answer × Scanner
  | [] => ([], s)
  | c :: calls =>
    let (answer, s) := s.call c
    let (answers, s) := s.callAll calls
    (answer :: answers, s)

theorem Held.call (h : Held rule m source place s) (c : Call) : Held rule m source place (s.call c).2 := by
  cases c with
  | next => exact h.next
  | remaining => exact h.takeRemaining

theorem Held.callAll (h : Held rule m source place s) (calls : List Call) :
    Held rule m source place (s.callAll calls).2 := by
  induction calls generalizing s with
  | nil => exact h
  | cons c calls ih => exact ih (h.call c)

end Scanner

end LogFollow
