import LogFollow.Encoding
import LogFollow.Proofs.Segments

/-!
# The lines of a byte string

A byte string is a list of lines, each with a newline behind it, and a tail without one: its segments
between newlines. This module cuts a byte string into these and says what they hold. Encodings with
code units of one byte share one framing rule for them. Nothing here knows of buffers or reads.
-/
namespace LogFollow.Lines

/-- The byte that ends a line. -/
def newline : UInt8 := 0x0A

/-- The byte that may stand before the newline without being part of the line. -/
def carriageReturn : UInt8 := 0x0D

/-- The lines that end with a newline, without it, and the tail behind the last of them. -/
def cut : Bytes → List Bytes × Bytes
  | [] => ([], [])
  | b :: rest =>
    if b = newline then ([] :: (cut rest).1, (cut rest).2)
    else
      match (cut rest).1 with
      | [] => ([], b :: (cut rest).2)
      | line :: lines => ((b :: line) :: lines, (cut rest).2)

/-- The lines that end with a newline, without it. -/
def whole (data : Bytes) : List Bytes := (cut data).1

/-- What stands behind the last newline. -/
def tail (data : Bytes) : Bytes := (cut data).2

/-- A line without the carriage return at its end. -/
def trim (line : Bytes) : Bytes :=
  if line.getLast? = some carriageReturn then line.dropLast else line

/-- The entries of a byte string: what its lines hold, and its tail if there is one. -/
def entries (data : Bytes) : List Bytes :=
  (whole data).map trim ++ if tail data = [] then [] else [tail data]

theorem cut_of_notMem {data : Bytes} (h : newline ∉ data) : cut data = ([], data) := by
  induction data with
  | nil => rfl
  | cons b rest ih =>
    obtain ⟨hb, hr⟩ := List.ne_and_not_mem_of_not_mem_cons h
    rw [cut, if_neg (Ne.symm hb), ih hr]

theorem cut_line {line : Bytes} (h : newline ∉ line) (rest : Bytes) :
    cut (line ++ newline :: rest) = (line :: whole rest, tail rest) := by
  induction line with
  | nil => rfl
  | cons b line ih =>
    obtain ⟨hb, hl⟩ := List.ne_and_not_mem_of_not_mem_cons h
    rw [List.cons_append, cut, if_neg (Ne.symm hb), ih hl]

/-- The lines of a byte string are its segments between newlines. -/
theorem cut_eq_segments (data : Bytes) :
    cut data = (Segments.whole newline data, Segments.tail newline data) := by
  induction data using Segments.induct newline with
  | unended data h => rw [cut_of_notMem h, Segments.whole_of_notMem h, Segments.tail_of_notMem h]
  | segment line rest h ih =>
    rw [cut_line h, whole, tail, ih, Segments.whole_segment h, Segments.tail_segment h]

theorem whole_eq_segments (data : Bytes) : whole data = Segments.whole newline data := by
  rw [whole, cut_eq_segments]

theorem tail_eq_segments (data : Bytes) : tail data = Segments.tail newline data := by
  rw [tail, cut_eq_segments]

theorem whole_of_notMem {data : Bytes} (h : newline ∉ data) : whole data = [] := by
  rw [whole, cut_of_notMem h]

theorem tail_of_notMem {data : Bytes} (h : newline ∉ data) : tail data = data := by
  rw [tail, cut_of_notMem h]

theorem whole_line {line : Bytes} (h : newline ∉ line) (rest : Bytes) :
    whole (line ++ newline :: rest) = line :: whole rest := by
  rw [whole, cut_line h]

theorem tail_line {line : Bytes} (h : newline ∉ line) (rest : Bytes) :
    tail (line ++ newline :: rest) = tail rest := by
  rw [tail, cut_line h]

/-- A byte string has no newline, or it begins with a line. -/
theorem notMem_or_line (data : Bytes) :
    newline ∉ data ∨ ∃ line rest, newline ∉ line ∧ data = line ++ newline :: rest :=
  Segments.notMem_or_segment newline data

theorem whole_eq_nil_iff (data : Bytes) : whole data = [] ↔ newline ∉ data := by
  rcases notMem_or_line data with h | ⟨line, rest, hl, rfl⟩
  · exact iff_of_true (whole_of_notMem h) h
  · rw [whole_line hl]
    simp

/-- Induction over the lines of a byte string, the first one first. -/
@[elab_as_elim]
theorem induct {motive : Bytes → Prop} (unended : ∀ data, newline ∉ data → motive data)
    (line : ∀ l rest, newline ∉ l → motive rest → motive (l ++ newline :: rest))
    (data : Bytes) : motive data :=
  Segments.induct newline unended line data

/-- The lines with their newlines, and the tail, make up the byte string. -/
theorem flatMap_whole_append_tail (data : Bytes) :
    ((whole data).flatMap fun l => l ++ [newline]) ++ tail data = data := by
  rw [whole_eq_segments, tail_eq_segments]
  exact Segments.flatMap_whole_append_tail newline data

theorem notMem_of_mem_whole {data line : Bytes} (h : line ∈ whole data) : newline ∉ line :=
  Segments.notMem_of_mem_whole (whole_eq_segments data ▸ h)

theorem notMem_tail (data : Bytes) : newline ∉ tail data := by
  rw [tail_eq_segments]
  exact Segments.notMem_tail newline data

theorem length_trim_le (line : Bytes) : (trim line).length ≤ line.length := by
  unfold trim
  split
  · rw [List.length_dropLast]; omega
  · exact Nat.le_refl _

theorem length_le_length_trim (line : Bytes) : line.length ≤ (trim line).length + 1 := by
  unfold trim
  split
  · rw [List.length_dropLast]; omega
  · omega

theorem take_length_trim (line rest : Bytes) :
    (line ++ rest).take (trim line).length = trim line := by
  unfold trim
  split
  · rw [List.length_dropLast, List.take_append_of_le_length (by omega), List.dropLast_eq_take]
  · exact List.take_left

/-! ## The framing rule -/

/-- The rule of every encoding whose code units are single bytes. -/
def rule : Framing := .newline [newline] [carriageReturn] 1

theorem lines_eq_rule {e : Encoding} (h : e.codeUnit = 1) : e.lines = rule := by
  cases e with
  | raw => rfl
  | charset set => cases set <;> first | rfl | exact absurd h (by decide)

end LogFollow.Lines
