import LogFollow.Compile
import LogFollow.Proofs.Framing
import LogFollow.Proofs.Occurrences

/-!
# Entries that a literal marks

A pattern marks where entries begin, or where they end. If it is a literal, the end of the first entry
is found where the literal stands first; only where entries begin with it, its occurrence at the very
front does not count. A literal that ends entries is waited for until a byte stands behind it.
-/
namespace LogFollow

/-- A matcher finds a literal that is not empty and fits into the look-ahead. -/
structure Matcher.Marks (m : Matcher) (part : Bytes) : Prop where
  finds : m.Finds part
  ne : part ≠ []
  le : part.length ≤ Framing.patternLookahead

/-- Which end of the entries a pattern marks. -/
inductive Mark
  | first
  | last
deriving DecidableEq, Repr

namespace Mark

/-- The rule of a configured pattern. -/
def compile (pattern : String) : Mark → Except Error Framing
  | first => Framing.ofStartPattern pattern
  | last => Framing.ofEndPattern pattern

/-- The rule of a matcher. -/
def framing (m : Matcher) : Mark → Framing
  | first => .entryStart m
  | last => .entryEnd m

/-- The number of bytes of a match that belong to the entry before it. -/
def taken (part : Bytes) : Mark → Nat
  | first => 0
  | last => part.length

/-- The number of bytes that must be at hand behind a match while more may come. -/
def ahead : Mark → Nat
  | first => 0
  | last => 1

/-- The index from which on the end of the first entry is looked for. -/
def seek (part data : Bytes) : Mark → Nat
  | first => if part <+: data then part.length else 0
  | last => 0

variable {mark : Mark} {m : Matcher} {part data : Bytes} {complete : Bool} {q n : Nat}

theorem compile_eq (mark : Mark) (pattern : String) :
    mark.compile pattern = (Framing.matcher pattern).map mark.framing := by
  cases mark <;> rfl

/-- A rule that was compiled looks for the matches of a pattern. -/
theorem exists_matcher_of_compile {pattern : String} {rule : Framing}
    (h : mark.compile pattern = .ok rule) :
    ∃ m, Framing.matcher pattern = .ok m ∧ mark.framing m = rule := by
  rw [compile_eq] at h
  cases hm : Framing.matcher pattern with
  | error error =>
    rw [hm] at h
    cases h
  | ok m =>
    rw [hm] at h
    exact ⟨m, rfl, Except.ok.inj h⟩

theorem lookahead_framing (mark : Mark) (m : Matcher) :
    (mark.framing m).lookahead = Framing.patternLookahead := by
  cases mark <;> rfl

/-! ## The first entry -/

theorem seek_le (mark : Mark) (part data : Bytes) : mark.seek part data ≤ part.length := by
  cases mark with
  | first => rw [seek]; split <;> omega
  | last => exact Nat.zero_le _

theorem pos_of_firstAt (hne : part ≠ []) (h : Bytes.FirstAt part data (mark.seek part data) q) :
    0 < q + mark.taken part := by
  have hpos := List.length_pos_iff.mpr hne
  cases mark with
  | last => exact Nat.add_pos_right _ hpos
  | first =>
    have hle := h.le
    rw [seek] at hle
    split at hle
    · exact Nat.lt_of_lt_of_le hpos (Nat.le_trans hle (Nat.le_add_right _ _))
    · next hfront =>
      refine Nat.pos_of_ne_zero fun hzero => hfront ?_
      have ho := h.occurs
      rwa [Bytes.OccursAt, show q = 0 by omega, List.drop_zero] at ho

theorem cut_of_ne_nil (hne : data ≠ []) :
    (mark.framing m).cut data complete =
      match mark with
      | first => Framing.cutBeforeEntry m data
      | last => Framing.cutAfterEntry m data complete := by
  have hdata : data.isEmpty = false := List.isEmpty_eq_false_iff.mpr hne
  cases mark <;> simp only [framing, Framing.cut, hdata] <;> rfl

theorem firstEnd?_of_firstAt (hm : m.Marks part)
    (h : Bytes.FirstAt part data 0 q) :
    Framing.firstEnd? m data = some ⟨q, q + part.length⟩ := by
  rw [Framing.firstEnd?, hm.finds.find?_eq h]
  exact if_pos (Nat.add_pos_right q (List.length_pos_iff.mpr hm.ne))

/-- Where the literal is found decides what is cut. -/
theorem cut_of_firstAt (hm : m.Marks part)
    (h : Bytes.FirstAt part data (mark.seek part data) q)
    (hroom : complete = true ∨ q + part.length + mark.ahead ≤ data.length) :
    (mark.framing m).cut data complete = .token (q + mark.taken part) ⟨0, q + mark.taken part⟩ := by
  have hpos := List.length_pos_iff.mpr hm.ne
  have hend := h.occurs.le_length hm.ne
  have hdata : data ≠ [] := by
    rintro rfl
    rw [List.length_nil] at hend
    omega
  rw [cut_of_ne_nil hdata]
  cases mark with
  | first =>
    -- an entry that begins with the literal goes on to the second one
    by_cases hfront : part <+: data
    · have hzero : Bytes.FirstAt part data 0 0 :=
        ⟨Nat.le_refl _, hfront, fun j _ hj => absurd hj (Nat.not_lt_zero _)⟩
      rw [seek, if_pos hfront] at h
      have hle := h.le
      have hreaches : data.reaches (part.length + 1) = true :=
        (Bytes.reaches_iff _ _).mpr (by omega)
      simp only [Framing.cutBeforeEntry, hm.finds.find?_eq hzero, Nat.zero_add, hreaches,
        if_pos hpos, hm.finds.find?_eq h]
      rfl
    · have hq : q ≠ 0 := by
        rintro rfl
        exact hfront h.occurs
      rw [seek, if_neg hfront] at h
      simp only [Framing.cutBeforeEntry, hm.finds.find?_eq h]
      exact if_pos hq
  | last =>
    have hwait : (!data.reaches (q + part.length + 1) && !complete) = false := by
      rcases hroom with rfl | hroom
      · simp
      · rw [(Bytes.reaches_iff _ (q + part.length + 1)).mpr hroom]
        rfl
    simp only [Framing.cutAfterEntry, firstEnd?_of_firstAt hm h, hwait]
    rfl

/-- Where it is not found in time, more bytes are needed. -/
theorem cut_of_no_firstAt (hm : m.Marks part)
    (h : ∀ q, Bytes.FirstAt part data (mark.seek part data) q →
      complete = false ∧ data.length < q + part.length + mark.ahead) :
    (mark.framing m).cut data complete = .needsMore := by
  have hpos := List.length_pos_iff.mpr hm.ne
  by_cases hdata : data = []
  · subst hdata
    cases mark <;> rfl
  rw [cut_of_ne_nil hdata]
  cases mark with
  | first =>
    have hnone : ∀ i, seek part data .first ≤ i → ¬ Bytes.OccursAt part data i := by
      rcases Bytes.exists_firstAt part data (seek part data .first) with ⟨q, hq⟩ | hnone
      · have hlt := (h q hq).2
        have hle := hq.occurs.le_length hm.ne
        rw [ahead] at hlt
        omega
      · exact hnone
    by_cases hfront : part <+: data
    · have hzero : Bytes.FirstAt part data 0 0 :=
        ⟨Nat.le_refl _, hfront, fun j _ hj => absurd hj (Nat.not_lt_zero _)⟩
      rw [seek, if_pos hfront] at hnone
      simp only [Framing.cutBeforeEntry, hm.finds.find?_eq hzero, Nat.zero_add, if_pos hpos,
        hm.finds.find?_eq_none hnone]
      cases data.reaches (part.length + 1) <;> rfl
    · rw [seek, if_neg hfront] at hnone
      simp only [Framing.cutBeforeEntry, hm.finds.find?_eq_none hnone]
  | last =>
    rcases Bytes.exists_firstAt part data 0 with ⟨q, hq⟩ | hnone
    · obtain ⟨rfl, hlt⟩ := h q hq
      have hwait : (!data.reaches (q + part.length + 1) && !false) = true := by
        rw [Bool.not_false, Bool.and_true, Bool.not_eq_true', ← Bool.not_eq_true,
          Bytes.reaches_iff]
        exact Nat.not_le.mpr hlt
      simp only [Framing.cutAfterEntry, firstEnd?_of_firstAt hm hq, hwait, if_true]
    · simp only [Framing.cutAfterEntry, Framing.firstEnd?, hm.finds.find?_eq_none hnone]

/-- An entry that is cut ends where the literal is found. -/
theorem firstAt_of_cut (hm : m.Marks part) {advance : Nat} {token : Span}
    (h : (mark.framing m).cut data complete = .token advance token) :
    ∃ q, Bytes.FirstAt part data (mark.seek part data) q ∧
      (complete = true ∨ q + part.length + mark.ahead ≤ data.length) ∧
      advance = q + mark.taken part ∧ token = ⟨0, advance⟩ := by
  by_cases hex : ∃ q, Bytes.FirstAt part data (mark.seek part data) q ∧
      (complete = true ∨ q + part.length + mark.ahead ≤ data.length)
  · obtain ⟨q, hq, hroom⟩ := hex
    rw [cut_of_firstAt hm hq hroom] at h
    obtain ⟨rfl, rfl⟩ := Cut.token.inj h
    exact ⟨q, hq, hroom, rfl, rfl⟩
  · rw [cut_of_no_firstAt hm] at h
    · cases h
    · intro q hq
      have hroom := not_or.mp fun hr => hex ⟨q, hq, hr⟩
      exact ⟨Bool.eq_false_iff.mpr hroom.1, Nat.not_le.mp hroom.2⟩

theorem taken_le (mark : Mark) (part : Bytes) : mark.taken part ≤ part.length := by
  cases mark with
  | first => exact Nat.zero_le _
  | last => exact Nat.le_refl _

theorem ahead_le (mark : Mark) : mark.ahead ≤ 1 := by
  cases mark <;> decide

theorem seek_take (mark : Mark) (h : part.length ≤ n) :
    mark.seek part (data.take n) = mark.seek part data := by
  cases mark with
  | first => simp only [seek, List.prefix_take_iff, h, and_true]
  | last => rfl

/-- The rule of a literal stands by its entries. -/
theorem framing_stable (hm : m.Marks part) : (mark.framing m).Stable where
  front data complete advance token h := by
    obtain ⟨q, hq, -, rfl, rfl⟩ := firstAt_of_cut hm h
    have hle := hq.occurs.le_length hm.ne
    have htaken := mark.taken_le part
    exact ⟨rfl, Nat.le_refl _, by omega⟩
  pos data complete advance token h := by
    obtain ⟨q, hq, -, rfl, -⟩ := firstAt_of_cut hm h
    exact pos_of_firstAt hm.ne hq
  stays data advance token h more complete := by
    obtain ⟨q, hq, hroom, rfl, rfl⟩ := firstAt_of_cut hm h
    have hle := hq.occurs.le_length hm.ne
    have hfront : Bytes.FirstAt part ((data ++ more).take data.length) (mark.seek part data) q := by
      rwa [List.take_left]
    have hfirst : Bytes.FirstAt part (data ++ more) (mark.seek part (data ++ more)) q := by
      rw [← mark.seek_take (by omega : part.length ≤ data.length), List.take_left]
      exact ((Bytes.firstAt_take hm.ne).mp hfront).1
    refine cut_of_firstAt hm hfirst (.inr ?_)
    have hroom := hroom.resolve_left Bool.false_ne_true
    rw [List.length_append]
    omega

end Mark

end LogFollow
