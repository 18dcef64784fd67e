import LogFollow.Bytes
import Mathlib.Tactic.Common

/-!
# Slices and places of byte strings

A slice, and the byte at an index, depend on the bytes up to there alone; and the place of a code unit
lies within the bytes in which it is looked for.
-/
namespace LogFollow.Bytes

theorem reaches_iff (data : Bytes) (n : Nat) : data.reaches n = true ↔ n ≤ data.length := by
  induction data generalizing n with
  | nil => cases n <;> simp [reaches]
  | cons _ rest ih => cases n <;> simp [reaches, ih]

theorem slice_append {content : Bytes} {start stop : Nat} (h : stop ≤ content.length)
    (more : Bytes) : slice (content ++ more) start stop = slice content start stop := by
  unfold slice
  by_cases hs : start ≤ content.length
  · rw [List.drop_append_of_le_length hs, List.take_append_of_le_length]
    rw [List.length_drop]
    omega
  · rw [show stop - start = 0 by omega, List.take_zero, List.take_zero]

theorem length_slice (content : Bytes) (start stop : Nat) :
    (slice content start stop).length = min (stop - start) (content.length - start) := by
  rw [slice, List.length_take, List.length_drop]

/-- Two slices of which one begins where the other ends make up one slice. -/
theorem slice_append_slice (content : Bytes) {start middle stop : Nat} (h : start ≤ middle)
    (h' : middle ≤ stop) :
    slice content start middle ++ slice content middle stop = slice content start stop := by
  have hdrop : content.drop middle = (content.drop start).drop (middle - start) := by
    rw [List.drop_drop, Nat.add_sub_cancel' h]
  rw [slice, slice, slice, hdrop, ← List.take_add]
  congr 1
  omega

/-- A slice from the place of some bytes on is the beginning of these bytes. -/
theorem slice_of_drop {content data : Bytes} {place : Nat} (h : content.drop place = data)
    (n : Nat) : slice content place (place + n) = data.take n := by
  rw [slice, h, Nat.add_sub_cancel_left]

theorem getElem?_of_drop {content data : Bytes} {place : Nat} (h : content.drop place = data)
    (n : Nat) : content[place + n]? = data[n]? := by
  rw [← h, List.getElem?_drop]

theorem alignedIndexFrom_spec {unit : Bytes} {width i stop : Nat} {data : Bytes}
    (h : alignedIndexFrom i unit width data = some stop) :
    i ≤ stop ∧ stop + unit.length ≤ i + data.length := by
  induction data generalizing i with
  | nil => cases h
  | cons b rest ih =>
    rw [alignedIndexFrom] at h
    split at h
    · next hunit =>
      obtain rfl := Option.some.inj h
      have hl := (List.isPrefixOf_iff_prefix.mp hunit.2).length_le
      omega
    · have hr := ih h
      rw [List.length_cons]
      omega

end LogFollow.Bytes
