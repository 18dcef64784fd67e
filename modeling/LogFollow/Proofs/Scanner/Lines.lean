import LogFollow.Proofs.Lines
import LogFollow.Proofs.Scanner.CodeUnits

/-!
# The scanner finds the lines of its stream

`Lines.items` says, without buffers and reads, what a scanner for lines is to report of a byte string:
each line that is small enough, one item for each line that is not, and one for a tail that fills the
buffer. What a scanner still has to report is a function of the bytes it has not used up, of its
position and of whether it skips; every call for an item takes one from the front of that list.
-/
namespace LogFollow

namespace Lines

/-- What is reported of a line at a place, and the place behind what is then used up. A line that does
not fit into the buffer is reported when the buffer is full. -/
def report (m place : Nat) (line : Bytes) : Scanned × Nat :=
  if (trim line).length ≤ m then (.token (trim line), place + line.length + 1)
  else if line.length + 1 ≤ m + 2 then
    (.oversized (trim line).length, place + line.length + 1)
  else (.oversized (m + 2), place + (m + 2))

/-- What is reported of lines and of the tail behind them. -/
def reports (m : Nat) : Nat → List Bytes → Bytes → List (Scanned × Nat)
  | place, [], last =>
    if m + 2 ≤ last.length then [(.oversized (m + 2), place + (m + 2))] else []
  | place, line :: lines, last =>
    report m place line :: reports m (place + line.length + 1) lines last

/-- What is reported of a byte string whose first byte has a place. -/
def items (m place : Nat) (data : Bytes) : List (Scanned × Nat) :=
  reports m place (whole data) (tail data)

/-- What is reported of a byte string that begins inside an oversized line. -/
def itemsBehind (m place : Nat) (data : Bytes) : List (Scanned × Nat) :=
  match whole data with
  | [] => []
  | line :: lines => reports m (place + line.length + 1) lines (tail data)

/-- The bytes that are left when all has been reported, if there are any. -/
def remainder (m : Nat) (data : Bytes) : Option Bytes :=
  if tail data = [] ∨ m + 2 ≤ (tail data).length then none else some (tail data)

theorem report_of_fits {m : Nat} {line : Bytes} (h : line.length + 1 ≤ m + 2) (place : Nat) :
    report m place line =
      (if m < (trim line).length then .oversized (trim line).length else .token (trim line),
        place + line.length + 1) := by
  by_cases hm : (trim line).length ≤ m
  · rw [report, if_pos hm, if_neg (by omega)]
  · rw [report, if_neg hm, if_pos h, if_pos (by omega)]

theorem report_of_overflows {m : Nat} {line : Bytes} (h : m + 2 < line.length + 1) (place : Nat) :
    report m place line = (.oversized (m + 2), place + (m + 2)) := by
  have ht := length_le_length_trim line
  rw [report, if_neg (by omega), if_neg (by omega)]

theorem items_of_notMem {m : Nat} {data : Bytes} (h : newline ∉ data) (place : Nat) :
    items m place data =
      if m + 2 ≤ data.length then [(.oversized (m + 2), place + (m + 2))] else [] := by
  rw [items, whole_of_notMem h, tail_of_notMem h, reports]

theorem items_line {line : Bytes} (h : newline ∉ line) (m place : Nat) (rest : Bytes) :
    items m place (line ++ newline :: rest) =
      report m place line :: items m (place + line.length + 1) rest := by
  rw [items, whole_line h, tail_line h, reports, items]

theorem remainder_line {line : Bytes} (h : newline ∉ line) (m : Nat) (rest : Bytes) :
    remainder m (line ++ newline :: rest) = remainder m rest := by
  rw [remainder, tail_line h, remainder]

/-! ## Encodings with code units of one byte -/

variable {e : Encoding} (he : e.codeUnit = 1)
include he

theorem units_eq (data : Bytes) : e.units data = data.map fun b => [b] := by
  rw [Encoding.units, he]
  induction data with
  | nil => rw [Bytes.units, List.map_nil]
  | cons b rest ih => rw [Bytes.units, Nat.sub_self, List.take_zero, List.drop_zero, ih, List.map_cons]

theorem newline_mem_units_iff (data : Bytes) : e.newline ∈ e.units data ↔ newline ∈ data := by
  rw [units_eq he, Encoding.newline, Encoding.ascii_of_codeUnit he, List.mem_map]
  simp [newline]

theorem isLine_iff (line : Bytes) : e.IsLine line ↔ newline ∉ line := by
  rw [← newline_mem_units_iff he]
  exact ⟨Encoding.IsLine.notMem, fun h => ⟨he ▸ Nat.one_dvd _, h⟩⟩

theorem cut_eq (data : Bytes) : e.whole data = whole data ∧ e.tail data = tail data := by
  induction data using induct with
  | unended data h =>
    have hn := (newline_mem_units_iff he data).not.mpr h
    rw [Encoding.whole_of_notMem hn, Encoding.tail_of_notMem hn, whole_of_notMem h,
      tail_of_notMem h]
    exact ⟨rfl, rfl⟩
  | line l rest h ih =>
    have hl := (isLine_iff he l).mpr h
    have hnl : newline :: rest = e.newline ++ rest := by
      rw [Encoding.newline, Encoding.ascii_of_codeUnit he]
      rfl
    rw [whole_line h, tail_line h, hnl, Encoding.whole_line hl, Encoding.tail_line hl, ih.1, ih.2]
    exact ⟨rfl, rfl⟩

theorem trim_eq (line : Bytes) : e.trim line = trim line := by
  rcases List.eq_nil_or_concat line with rfl | ⟨init, b, rfl⟩
  · exact e.trim_nil
  · have hu : e.units (init.concat b) = e.units init ++ [[b]] := by
      rw [units_eq he, units_eq he, List.concat_eq_append, List.map_append]
      rfl
    rw [Encoding.trim_concat hu, Encoding.carriageReturn, Encoding.ascii_of_codeUnit he, trim]
    simp [carriageReturn]

theorem report_eq (m place : Nat) (line : Bytes) :
    e.report m place line = report m place line := by
  rw [Encoding.report, report, trim_eq he, Encoding.roomFor, he]
  rfl

theorem reports_eq (m : Nat) (last : Bytes) (lines : List Bytes) (place : Nat) :
    e.reports m place lines last = reports m place lines last := by
  induction lines generalizing place with
  | nil => rw [Encoding.reports, reports, Encoding.roomFor, he]
  | cons line lines ih => rw [Encoding.reports, reports, report_eq he, ih, he, Nat.add_assoc]

/-- The scanner is to find what the one for the encoding is. -/
theorem expected_eq (m place : Nat) (data : Bytes) (skipping : Bool) :
    e.expected m skipping place data =
      (if skipping then itemsBehind m place data else items m place data,
        if skipping ∧ whole data = [] then none else remainder m data) := by
  obtain ⟨hw, ht⟩ := cut_eq he data
  have hrem : e.remainder m data = remainder m data := by
    rw [Encoding.remainder, remainder, ht, Encoding.roomFor, he]
  have hitems : e.items m place data = items m place data := by
    rw [Encoding.items, items, hw, ht, reports_eq he]
  have hbehind : e.itemsBehind m place data = itemsBehind m place data := by
    rw [Encoding.itemsBehind, itemsBehind, hw, ht]
    cases whole data with
    | nil => rfl
    | cons line lines =>
      change e.reports m (place + (line.length + e.codeUnit)) lines (tail data) =
        reports m (place + line.length + 1) lines (tail data)
      rw [reports_eq he, he, Nat.add_assoc]
  cases skipping with
  | true => simp only [Encoding.expected, if_true, hbehind, hw, hrem, true_and]
  | false => simp only [Encoding.expected, Bool.false_eq_true, if_false, hitems, hrem, false_and]

end Lines

namespace Outlook

open Lines (newline trim)

/-- What is to come of the bytes from a place on; `skipping` tells that they begin inside an oversized
line. -/
def of (m : Nat) (failures : List IoError) (skipping : Bool) (place : Nat) (data : Bytes) :
    Outlook where
  items := if skipping then Lines.itemsBehind m place data else Lines.items m place data
  failures := failures
  left := if skipping ∧ Lines.whole data = [] then none else Lines.remainder m data
  stop := place + data.length

end Outlook

namespace Scanner

/-- What a scanner for lines has still to give. -/
def outlook (s : Scanner) : Outlook :=
  .of s.maxSize s.source.failures s.skipping s.position s.pending

/-- The scanner cuts at newlines, and its buffer is in order and may hold a token and its newline. -/
structure ForLines (s : Scanner) : Prop where
  rule : s.rule = Lines.rule
  sized : Lines.rule.Sized s.maxSize
  sound : Sound s

theorem drains_outlook {s : Scanner} (h : ForLines s) :
    ∃ t, Drains s s.outlook.items s.outlook.failures t ∧
      t.takeRemaining.1 = s.outlook.left ∧ t.takeRemaining.2.position = s.outlook.stop := by
  have hrule : s.rule = Encoding.standard.lines := h.rule
  have hs : Steady s := ⟨hrule ▸ Encoding.lines_stable _, h.sound⟩
  have hsized : Encoding.standard.lines.Sized s.maxSize := h.sized
  have hfound : s.rule.found s.maxSize s.skipping s.position s.pending = _ :=
    hrule ▸ Encoding.found_eq_expected hsized s.pending (.inl (Nat.one_dvd _)) s.skipping s.position
  rw [Lines.expected_eq rfl] at hfound
  have ho : s.outlook = s.prospect := by
    rw [prospect, hfound]
    rfl
  rw [ho]
  exact hs.drains

theorem new_forLines {m : Nat} (hs : Lines.rule.Sized m) (source : Source) (place : Nat) :
    ForLines (new Lines.rule m source place) :=
  ⟨rfl, hs, new_sound (Encoding.capacityOf_lines_pos (e := .standard) hs) source place⟩

theorem drains_rule {m : Nat} (hs : Lines.rule.Sized m) (source : Source) (place : Nat) :
    ∃ t, Drains (new Lines.rule m source place) (Lines.items m place source.stream)
        source.failures t ∧
      t.takeRemaining.1 = Lines.remainder m source.stream ∧
      t.takeRemaining.2.position = place + source.stream.length :=
  drains_outlook (new_forLines hs source place)

end Scanner

end LogFollow
