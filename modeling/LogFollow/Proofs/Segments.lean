import Mathlib.Data.List.Basic
import Mathlib.Data.Nat.Init
import Mathlib.Tactic.Common

/-!
# Segments of a list

A list is a row of segments, each with a mark behind it, and a tail without one. Files are cut into
lines this way: as lists of bytes, of code units, and of characters.
-/
namespace LogFollow.Segments

variable {α β : Type} [DecidableEq α]

/-- The segments that end with the mark, without it. -/
def whole (mark : α) (l : List α) : List (List α) := (l.splitOn mark).dropLast

/-- What stands behind the last mark. -/
def tail (mark : α) (l : List α) : List α := (l.splitOn mark).getLastD []

/-- A segment without an element at its end that is not part of it. -/
def trim (dropped : α) (segment : List α) : List α :=
  if segment.getLast? = some dropped then segment.dropLast else segment

variable {mark dropped : α} {l segment : List α}

theorem whole_of_notMem (h : mark ∉ l) : whole mark l = [] := by
  rw [whole, List.splitOn_eq_singleton h]
  rfl

theorem tail_of_notMem (h : mark ∉ l) : tail mark l = l := by
  rw [tail, List.splitOn_eq_singleton h]
  rfl

theorem whole_segment (h : mark ∉ segment) (rest : List α) :
    whole mark (segment ++ mark :: rest) = segment :: whole mark rest := by
  rw [whole, List.splitOn_append_cons_self_of_not_mem h,
    List.dropLast_cons_of_ne_nil (List.splitOn_ne_nil mark rest), whole]

theorem tail_segment (h : mark ∉ segment) (rest : List α) :
    tail mark (segment ++ mark :: rest) = tail mark rest := by
  rw [tail, List.splitOn_append_cons_self_of_not_mem h, tail]
  cases hr : rest.splitOn mark with
  | nil => exact absurd hr (List.splitOn_ne_nil mark rest)
  | cons s ss => rfl

/-- A list has no mark, or it begins with a segment. -/
theorem notMem_or_segment (mark : α) (l : List α) :
    mark ∉ l ∨ ∃ segment rest, mark ∉ segment ∧ l = segment ++ mark :: rest := by
  by_cases h : mark ∈ l
  · obtain ⟨segment, rest, he, hs⟩ := List.eq_append_cons_of_mem h
    exact .inr ⟨segment, rest, hs, he⟩
  · exact .inl h

/-- Induction over the segments of a list, the first one first. -/
@[elab_as_elim]
theorem induct (mark : α) {motive : List α → Prop} (unended : ∀ l, mark ∉ l → motive l)
    (segment : ∀ s rest, mark ∉ s → motive rest → motive (s ++ mark :: rest)) (l : List α) :
    motive l := by
  induction h : l.length using Nat.strong_induction_on generalizing l with
  | h n ih =>
    rcases notMem_or_segment mark l with hn | ⟨s, rest, hs, rfl⟩
    · exact unended l hn
    · refine segment s rest hs (ih rest.length ?_ rest rfl)
      rw [← h, List.length_append, List.length_cons]
      omega

/-- The segments with their marks, and the tail, make up the list. -/
theorem flatMap_whole_append_tail (mark : α) (l : List α) :
    ((whole mark l).flatMap fun s => s ++ [mark]) ++ tail mark l = l := by
  induction l using induct mark with
  | unended l h => rw [whole_of_notMem h, tail_of_notMem h]; rfl
  | segment s rest h ih =>
    rw [whole_segment h, tail_segment h, List.flatMap_cons, List.append_assoc, ih]
    simp

theorem notMem_of_mem_whole (h : segment ∈ whole mark l) : mark ∉ segment := by
  induction l using induct mark with
  | unended l hn => rw [whole_of_notMem hn] at h; exact absurd h List.not_mem_nil
  | segment s rest hs ih =>
    rw [whole_segment hs] at h
    rcases List.mem_cons.mp h with rfl | h
    · exact hs
    · exact ih h

theorem notMem_tail (mark : α) (l : List α) : mark ∉ tail mark l := by
  induction l using induct mark with
  | unended l h => rwa [tail_of_notMem h]
  | segment s rest h ih => rwa [tail_segment h]

theorem trim_concat (dropped a : α) (l : List α) :
    trim dropped (l ++ [a]) = if a = dropped then l else l ++ [a] := by
  simp [trim]

end LogFollow.Segments
