import LogFollow.Framing
import Mathlib.Data.List.Infix
import Mathlib.Data.Nat.Find

/-!
# Occurrences of a byte string

Where a byte string stands in another, and where it does so first. An occurrence lies within as many
bytes as it has behind its place, so bytes further on have no say in it.
-/
namespace LogFollow

namespace Bytes

/-- The bytes `part` stand in `data` at an index. -/
def OccursAt (part data : Bytes) (i : Nat) : Prop := part <+: data.drop i

instance (part data : Bytes) (i : Nat) : Decidable (OccursAt part data i) :=
  inferInstanceAs (Decidable (part <+: data.drop i))

/-- The first index, from `start` on, at which `part` stands in `data`. -/
structure FirstAt (part data : Bytes) (start i : Nat) : Prop where
  le : start ≤ i
  occurs : OccursAt part data i
  least : ∀ j, start ≤ j → j < i → ¬ OccursAt part data j

variable {part data more : Bytes} {start i j n : Nat}

theorem OccursAt.le_length (h : OccursAt part data i) (hne : part ≠ []) :
    i + part.length ≤ data.length := by
  have hle := h.length_le
  have hpos := List.length_pos_of_ne_nil hne
  rw [List.length_drop] at hle
  omega

theorem occursAt_drop : OccursAt part (data.drop n) i ↔ OccursAt part data (n + i) := by
  rw [OccursAt, OccursAt, List.drop_drop]

/-- An occurrence in the front of the bytes is one that ends there. -/
theorem occursAt_take (hne : part ≠ []) :
    OccursAt part (data.take n) i ↔ OccursAt part data i ∧ i + part.length ≤ n := by
  have hpos := List.length_pos_of_ne_nil hne
  rw [OccursAt, OccursAt, List.drop_take, List.prefix_take_iff]
  exact and_congr_right fun _ => by omega

theorem occursAt_append (hne : part ≠ []) (h : i + part.length ≤ data.length) :
    OccursAt part (data ++ more) i ↔ OccursAt part data i := by
  have htake := @occursAt_take part (data ++ more) i data.length hne
  rw [List.take_left] at htake
  exact ⟨fun ho => htake.mpr ⟨ho, h⟩, fun ho => (htake.mp ho).1⟩

theorem FirstAt.unique (h : FirstAt part data start i) (h' : FirstAt part data start j) : i = j := by
  rcases Nat.lt_trichotomy i j with hlt | heq | hgt
  · exact absurd h.occurs (h'.least i h.le hlt)
  · exact heq
  · exact absurd h'.occurs (h.least j h'.le hgt)

/-- The first occurrence in the front of the bytes is that in the bytes, if it ends there. -/
theorem firstAt_take (hne : part ≠ []) :
    FirstAt part (data.take n) start i ↔ FirstAt part data start i ∧ i + part.length ≤ n := by
  constructor
  · rintro ⟨hle, hoccurs, hleast⟩
    obtain ⟨hdata, hfits⟩ := (occursAt_take hne).mp hoccurs
    exact ⟨⟨hle, hdata, fun j hj hlt h =>
      hleast j hj hlt ((occursAt_take hne).mpr ⟨h, by omega⟩)⟩, hfits⟩
  · rintro ⟨⟨hle, hoccurs, hleast⟩, hfits⟩
    exact ⟨hle, (occursAt_take hne).mpr ⟨hoccurs, hfits⟩, fun j hj hlt h =>
      hleast j hj hlt ((occursAt_take hne).mp h).1⟩

theorem firstAt_drop (hn : start ≤ n) (hi : n ≤ i) (h : FirstAt part data start i) :
    FirstAt part (data.drop n) 0 (i - n) := by
  refine ⟨Nat.zero_le _, ?_, fun j _ hlt ho => ?_⟩
  · rw [occursAt_drop, Nat.add_sub_cancel' hi]
    exact h.occurs
  · exact h.least (n + j) (by omega) (by omega) (occursAt_drop.mp ho)

theorem firstAt_drop_iff :
    FirstAt part (data.drop n) start i ↔ FirstAt part data (n + start) (n + i) := by
  constructor
  · rintro ⟨hle, hoccurs, hleast⟩
    refine ⟨by omega, occursAt_drop.mp hoccurs, fun j hj hlt ho => ?_⟩
    refine hleast (j - n) (by omega) (by omega) (occursAt_drop.mpr ?_)
    rwa [Nat.add_sub_cancel' (by omega)]
  · rintro ⟨hle, hoccurs, hleast⟩
    exact ⟨by omega, occursAt_drop.mpr hoccurs, fun j hj hlt ho =>
      hleast (n + j) (by omega) (by omega) (occursAt_drop.mp ho)⟩

/-- Bytes that end with `part` for the first time: no occurrence ends earlier. -/
theorem firstAt_of_suffix (hne : part ≠ []) (h : part <:+ data)
    (hi : data.length = i + part.length)
    (hnone : ∀ j, j + part.length < data.length → ¬ OccursAt part data j) (more : Bytes) :
    FirstAt part (data ++ more) 0 i := by
  obtain ⟨front, rfl⟩ := h
  rw [List.length_append, Nat.add_right_cancel_iff] at hi
  refine ⟨Nat.zero_le _, ?_, fun j _ hlt ho => ?_⟩
  · rw [OccursAt, List.append_assoc, ← hi, List.drop_left]
    exact List.prefix_append _ _
  · have hle : j + part.length < (front ++ part).length := by
      rw [List.length_append]
      omega
    exact hnone j hle ((occursAt_append hne (Nat.le_of_lt hle)).mp ho)

/-- Bytes that do not end with `part` hold it only where an occurrence ends earlier. -/
theorem not_occursAt_of_not_suffix (hne : part ≠ []) (h : ¬ part <:+ data)
    (hnone : ∀ j, j + part.length < data.length → ¬ OccursAt part data j) (i : Nat) :
    ¬ OccursAt part data i := by
  intro ho
  have hle := ho.le_length hne
  refine hnone i (Nat.lt_of_le_of_ne hle fun heq => h ?_) ho
  have hlen : part.length = (data.drop i).length := by
    rw [List.length_drop]
    omega
  rw [ho.eq_of_length hlen]
  exact List.drop_suffix _ _

/-- Bytes that are not the first one of `part` put it off. -/
theorem firstAt_replicate {filler : UInt8} (hfiller : part.head? ≠ some filler) (hne : part ≠ [])
    (front : Bytes) (n : Nat) (more : Bytes) :
    FirstAt part (front ++ (List.replicate n filler ++ (part ++ more))) front.length
      (front.length + n) := by
  refine ⟨Nat.le_add_right _ _, ?_, fun j hj hlt ho => hfiller ?_⟩
  · rw [OccursAt, ← List.drop_drop, List.drop_left, List.drop_left' List.length_replicate]
    exact List.prefix_append _ _
  · obtain ⟨b, rest, rfl⟩ := List.exists_cons_of_ne_nil hne
    obtain ⟨i, rfl⟩ := Nat.exists_eq_add_of_le hj
    have hi : i < n := by omega
    rw [OccursAt, ← List.drop_drop, List.drop_left] at ho
    obtain ⟨behind, hbehind⟩ := ho
    have hhead := congrArg List.head? hbehind
    rw [List.head?_drop, List.getElem?_append_left (by rwa [List.length_replicate]),
      List.getElem?_replicate_of_lt hi] at hhead
    exact hhead

/-- Bytes either stand somewhere from an index on, and there is a first place, or they do not. -/
theorem exists_firstAt (part data : Bytes) (start : Nat) :
    (∃ i, FirstAt part data start i) ∨ ∀ i, start ≤ i → ¬ OccursAt part data i := by
  by_cases h : ∃ i, start ≤ i ∧ OccursAt part data i
  · obtain ⟨hle, ho⟩ := Nat.find_spec h
    exact .inl ⟨Nat.find h, hle, ho, fun j hj hlt hoj => Nat.find_min h hlt ⟨hj, hoj⟩⟩
  · exact .inr fun i hle ho => h ⟨i, hle, ho⟩

end Bytes

/-- A matcher finds the occurrences of a byte string. -/
structure Matcher.Finds (m : Matcher) (part : Bytes) : Prop where
  some : ∀ {data start span}, m.find? data start = some span →
    Bytes.FirstAt part data start span.start ∧ span.stop = span.start + part.length
  none : ∀ {data start}, m.find? data start = none →
    ∀ i, start ≤ i → ¬ Bytes.OccursAt part data i

/-- What such a matcher finds. -/
theorem Matcher.Finds.find?_eq {m : Matcher} {part data : Bytes} {start i : Nat} (h : m.Finds part)
    (hi : Bytes.FirstAt part data start i) : m.find? data start = .some ⟨i, i + part.length⟩ := by
  cases hf : m.find? data start with
  | none => exact absurd hi.occurs (h.none hf i hi.le)
  | some span =>
    obtain ⟨hfirst, hstop⟩ := h.some hf
    rw [hfirst.unique hi] at hstop
    rw [← hstop, ← hfirst.unique hi]

theorem Matcher.Finds.find?_eq_none {m : Matcher} {part data : Bytes} {start : Nat}
    (h : m.Finds part) (hn : ∀ i, start ≤ i → ¬ Bytes.OccursAt part data i) :
    m.find? data start = .none := by
  cases hf : m.find? data start with
  | none => rfl
  | some span => exact absurd (h.some hf).1.occurs (hn _ (h.some hf).1.le)

end LogFollow
