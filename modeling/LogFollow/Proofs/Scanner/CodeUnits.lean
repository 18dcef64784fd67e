import LogFollow.Proofs.Scanner.Stable
import LogFollow.Proofs.Units

/-!
# The scanner finds the lines of any encoding

A scanner for lines looks for newlines at multiples of the code unit, counted from the front of its
buffer. Where it throws a full buffer away it counts from there anew. If the buffer holds whole code
units, which it does when the greatest size of a token is a multiple of the code unit, the count stays
that of the stream: one item is found for each line, and the lines behind one that is too large are
found as if it had not been there. If it holds a part of one, the lines behind are out of step.
-/
namespace LogFollow

namespace Encoding

variable {e : Encoding} {data line front more : Bytes} {m : Nat}

/-! ## Items -/

/-- The size of the buffer of a scanner for tokens of at most `m` bytes. -/
def roomFor (e : Encoding) (m : Nat) : Nat := m + 2 * e.codeUnit

/-- What is reported of a line at a place, and the place behind what is then used up. A line that does
not fit into the buffer is reported when the buffer is full. -/
def report (e : Encoding) (m place : Nat) (line : Bytes) : Scanned × Nat :=
  if (e.trim line).length ≤ m then
    (.token (e.trim line), place + (line.length + e.codeUnit))
  else if line.length + e.codeUnit ≤ e.roomFor m then
    (.oversized (e.trim line).length, place + (line.length + e.codeUnit))
  else (.oversized (e.roomFor m), place + e.roomFor m)

/-- What is reported of lines and of the tail behind them. -/
def reports (e : Encoding) (m : Nat) : Nat → List Bytes → Bytes → List (Scanned × Nat)
  | place, [], last =>
    if e.roomFor m ≤ last.length then [(.oversized (e.roomFor m), place + e.roomFor m)] else []
  | place, line :: lines, last =>
    e.report m place line :: reports e m (place + (line.length + e.codeUnit)) lines last

/-- What is reported of a byte string whose first byte has a place. -/
def items (e : Encoding) (m place : Nat) (data : Bytes) : List (Scanned × Nat) :=
  e.reports m place (e.whole data) (e.tail data)

/-- What is reported of a byte string that begins inside an oversized line. -/
def itemsBehind (e : Encoding) (m place : Nat) (data : Bytes) : List (Scanned × Nat) :=
  match e.whole data with
  | [] => []
  | line :: lines => e.reports m (place + (line.length + e.codeUnit)) lines (e.tail data)

/-- The bytes that are left when all has been reported, if there are any. -/
def remainder (e : Encoding) (m : Nat) (data : Bytes) : Option Bytes :=
  if e.tail data = [] ∨ e.roomFor m ≤ (e.tail data).length then none else some (e.tail data)

theorem roomFor_pos (e : Encoding) (m : Nat) : 0 < e.roomFor m := by
  have hpos := e.codeUnit_pos
  rw [roomFor]
  omega

theorem capacityOf_lines (hs : e.lines.Sized m) : Scanner.capacityOf e.lines m = e.roomFor m :=
  Scanner.capacityOf_of_sized hs

theorem capacityOf_lines_pos (hs : e.lines.Sized m) : 0 < Scanner.capacityOf e.lines m :=
  capacityOf_lines hs ▸ e.roomFor_pos m

theorem report_of_fits (hl : e.codeUnit ∣ line.length)
    (h : line.length + e.codeUnit ≤ e.roomFor m) (place : Nat) (rest : Bytes) :
    e.report m place line =
      (Framing.itemOf m (line ++ rest) ⟨0, (e.trim line).length⟩,
        place + (line.length + e.codeUnit)) := by
  have hslice : Bytes.slice (line ++ rest) 0 (e.trim line).length = e.trim line := by
    rw [Bytes.slice, List.drop_zero, Nat.sub_zero, take_length_trim hl]
  simp only [report, Framing.itemOf, Span.size, Nat.sub_zero, hslice]
  by_cases hm : (e.trim line).length ≤ m
  · rw [if_pos hm, if_neg (by omega)]
  · rw [if_neg hm, if_pos h, if_pos (by omega)]

theorem report_of_overflows (hl : e.codeUnit ∣ line.length)
    (h : e.roomFor m < line.length + e.codeUnit) (place : Nat) :
    e.report m place line = (.oversized (e.roomFor m), place + e.roomFor m) := by
  have ht := length_le_length_trim hl
  rw [report, if_neg (by rw [roomFor] at h; omega), if_neg (by omega)]

theorem items_of_notMem (h : e.newline ∉ e.units data) (m place : Nat) :
    e.items m place data =
      if e.roomFor m ≤ data.length then [(.oversized (e.roomFor m), place + e.roomFor m)]
      else [] := by
  rw [items, whole_of_notMem h, tail_of_notMem h, reports]

theorem items_line (h : e.IsLine line) (m place : Nat) (rest : Bytes) :
    e.items m place (line ++ (e.newline ++ rest)) =
      e.report m place line :: e.items m (place + (line.length + e.codeUnit)) rest := by
  rw [items, whole_line h, tail_line h, reports, items]

theorem itemsBehind_of_notMem (h : e.newline ∉ e.units data) (m place : Nat) :
    e.itemsBehind m place data = [] := by
  rw [itemsBehind, whole_of_notMem h]

theorem itemsBehind_line (h : e.IsLine line) (m place : Nat) (rest : Bytes) :
    e.itemsBehind m place (line ++ (e.newline ++ rest)) =
      e.items m (place + (line.length + e.codeUnit)) rest := by
  rw [itemsBehind, whole_line h, tail_line h, items]

/-- Whole code units without a newline change nothing behind an oversized line but the places. -/
theorem itemsBehind_append (h : e.IsLine front) (m place : Nat) (rest : Bytes) :
    e.itemsBehind m place (front ++ rest) = e.itemsBehind m (place + front.length) rest := by
  rcases e.notMem_or_line rest with hr | ⟨line, rest, hl, rfl⟩
  · rw [itemsBehind_of_notMem hr, itemsBehind_of_notMem (h.notMem_append hr)]
  · rw [itemsBehind_line hl, ← List.append_assoc, itemsBehind_line (h.append hl),
      List.length_append]
    congr 1
    omega

/-- A full buffer without a newline is reported, and the rest of its line is passed over. -/
theorem items_full (h : e.IsLine front) (hl : front.length = e.roomFor m) (place : Nat)
    (rest : Bytes) :
    e.items m place (front ++ rest) =
      (.oversized (e.roomFor m), place + e.roomFor m) ::
        e.itemsBehind m (place + e.roomFor m) rest := by
  rcases e.notMem_or_line rest with hr | ⟨line, rest, hn, rfl⟩
  · rw [items_of_notMem (h.notMem_append hr), if_pos (by rw [List.length_append]; omega),
      itemsBehind_of_notMem hr]
  · have hpos := e.codeUnit_pos
    rw [← List.append_assoc, items_line (h.append hn), itemsBehind_line hn,
      report_of_overflows (h.append hn).dvd (by rw [List.length_append]; omega),
      List.length_append, hl]
    congr 2
    omega

theorem remainder_line (h : e.IsLine line) (m : Nat) (rest : Bytes) :
    e.remainder m (line ++ (e.newline ++ rest)) = e.remainder m rest := by
  rw [remainder, tail_line h, remainder]

theorem remainder_of_notMem (h : e.newline ∉ e.units data) (hl : data.length < e.roomFor m) :
    e.remainder m data = if data = [] then none else some data := by
  rw [remainder, tail_of_notMem h]
  by_cases hd : data = []
  · rw [if_pos (.inl hd), if_pos hd]
  · rw [if_neg (by rintro (h | h); exacts [hd h, by omega]), if_neg hd]

/-- Of a full buffer nothing is left, unless a newline comes behind it. -/
theorem remainder_full (h : e.IsLine front) (hl : front.length = e.roomFor m) (rest : Bytes) :
    e.remainder m (front ++ rest) =
      if e.whole rest = [] then none else e.remainder m rest := by
  rcases e.notMem_or_line rest with hr | ⟨line, rest, hn, rfl⟩
  · rw [if_pos (whole_of_notMem hr), remainder, tail_of_notMem (h.notMem_append hr),
      if_pos (.inr (by rw [List.length_append]; omega))]
  · rw [← List.append_assoc, remainder_line (h.append hn), remainder_line hn, whole_line hn,
      if_neg (List.cons_ne_nil _ _)]

/-! ## What is found -/

/-- Every line fits into the buffer with its newline, and so does the tail. -/
structure Roomy (e : Encoding) (m : Nat) (data : Bytes) : Prop where
  lines : ∀ line ∈ e.whole data, line.length + e.codeUnit ≤ e.roomFor m
  tail : (e.tail data).length < e.roomFor m

theorem Roomy.behind (hl : e.IsLine line) (h : e.Roomy m (line ++ (e.newline ++ more))) :
    line.length + e.codeUnit ≤ e.roomFor m ∧ e.Roomy m more := by
  obtain ⟨hlines, htail⟩ := h
  rw [whole_line hl] at hlines
  rw [tail_line hl] at htail
  exact ⟨hlines line List.mem_cons_self,
    fun l h => hlines l (List.mem_cons_of_mem line h), htail⟩

/-- What a scanner that skips, or does not, is to find. -/
def expected (e : Encoding) (m : Nat) (skipping : Bool) (place : Nat) (data : Bytes) :
    List (Scanned × Nat) × Option Bytes :=
  if skipping then
    (e.itemsBehind m place data, if e.whole data = [] then none else e.remainder m data)
  else (e.items m place data, e.remainder m data)

theorem found_line (hs : e.lines.Sized m) (hl : e.IsLine line) (h : line.length + e.codeUnit ≤ e.roomFor m)
    (ih : ∀ place, e.lines.found m false place more = e.expected m false place more)
    (skipping : Bool) (place : Nat) :
    e.lines.found m skipping place (line ++ (e.newline ++ more)) =
      e.expected m skipping place (line ++ (e.newline ++ more)) := by
  have hlen : (line ++ e.newline).length = line.length + e.codeUnit := by
    rw [List.length_append, e.length_newline]
  have hcut : e.lines.cut (line ++ e.newline) false =
      .token (line.length + e.codeUnit) ⟨0, (e.trim line).length⟩ := by
    rw [← List.append_nil e.newline]
    exact cut_line hl [] false
  have htake : e.lines.cut ((line ++ e.newline ++ more).take (Scanner.capacityOf e.lines m))
      ((line ++ (e.newline ++ more)).length < Scanner.capacityOf e.lines m) = _ :=
    e.lines_stable.cut_take hcut (by rw [hlen, capacityOf_lines hs]; exact h) _
  rw [List.append_assoc] at htake
  have hdrop : (line ++ (e.newline ++ more)).drop (line.length + e.codeUnit) = more := by
    rw [← List.append_assoc, ← hlen, List.drop_left]
  rw [Framing.found_token e.lines_stable htake, hdrop, ih]
  cases skipping with
  | true =>
    simp only [expected, if_true, Bool.false_eq_true, if_false, itemsBehind_line hl,
      whole_line hl, reduceCtorEq, remainder_line hl]
  | false =>
    simp only [expected, Bool.false_eq_true, if_false, items_line hl, remainder_line hl,
      report_of_fits hl.dvd h place (e.newline ++ more)]

/-- A full buffer of whole code units without a newline is thrown away. -/
theorem found_overflow (hs : e.lines.Sized m) (hf : e.IsLine front) (hl : front.length = e.roomFor m)
    (ih : ∀ place, e.lines.found m true place more = e.expected m true place more)
    (skipping : Bool) (place : Nat) :
    e.lines.found m skipping place (front ++ more) =
      e.expected m skipping place (front ++ more) := by
  have hcap : Scanner.capacityOf e.lines m = front.length := (capacityOf_lines hs).trans hl.symm
  have htake : (front ++ more).take (Scanner.capacityOf e.lines m) = front := by
    rw [hcap, List.take_left]
  have hdrop : (front ++ more).drop (Scanner.capacityOf e.lines m) = more := by
    rw [hcap, List.drop_left]
  have hcut := cut_of_notMem hf.notMem false
  rw [← htake] at hcut
  have hle : Scanner.capacityOf e.lines m ≤ (front ++ more).length := by
    rw [hcap, List.length_append]
    exact Nat.le_add_right _ _
  rw [Framing.found_full (capacityOf_lines_pos hs) hle hcut, hdrop, ih, capacityOf_lines hs]
  cases skipping with
  | true =>
    have hw : e.whole (front ++ more) = [] ↔ e.whole more = [] := by
      rcases e.notMem_or_line more with hr | ⟨line, rest, hn, rfl⟩
      · exact iff_of_true (whole_of_notMem (hf.notMem_append hr)) (whole_of_notMem hr)
      · rw [← List.append_assoc, whole_line (hf.append hn), whole_line hn]
        simp
    simp only [expected, if_true, itemsBehind_append hf, hl, hw, remainder_full hf hl]
    split <;> rfl
  | false =>
    simp only [expected, if_true, Bool.false_eq_true, if_false, items_full hf hl,
      remainder_full hf hl]

theorem found_unended (hs : e.lines.Sized m) (h : e.newline ∉ e.units data)
    (hl : data.length < e.roomFor m) (skipping : Bool) (place : Nat) :
    e.lines.found m skipping place data = e.expected m skipping place data := by
  rw [Framing.found_rest (by rwa [capacityOf_lines hs]) (cut_of_notMem h true)]
  cases skipping with
  | true => simp [expected, itemsBehind_of_notMem h, whole_of_notMem h]
  | false =>
    simp only [expected, Bool.false_eq_true, if_false, items_of_notMem h, false_or,
      if_neg (Nat.not_le.mpr hl), remainder_of_notMem h hl]

theorem isLine_take (hn : e.newline ∉ e.units data) (hm : e.codeUnit ∣ m)
    (hl : e.roomFor m ≤ data.length) :
    e.IsLine (data.take (e.roomFor m)) ∧ (data.take (e.roomFor m)).length = e.roomFor m := by
  have hlen : (data.take (e.roomFor m)).length = e.roomFor m := List.length_take_of_le hl
  have hdvd : e.codeUnit ∣ (data.take (e.roomFor m)).length := by
    rw [hlen]
    exact Nat.dvd_add hm (Nat.dvd_mul_left _ _)
  refine ⟨⟨hdvd, fun h => hn ?_⟩, hlen⟩
  rw [← List.take_append_drop (e.roomFor m) data, units_append hdvd]
  exact List.mem_append_left _ h

/-- **What is found are the lines**, if full buffers hold whole code units or none is thrown away. -/
theorem found_eq_expected (hs : e.lines.Sized m) (data : Bytes)
    (h : e.codeUnit ∣ m ∨ e.Roomy m data) (skipping : Bool) (place : Nat) :
    e.lines.found m skipping place data = e.expected m skipping place data := by
  -- either a line with its newline is used up, or a full buffer that belongs to one line
  induction hn : data.length using Nat.strong_induction_on generalizing data skipping place with
  | h n ih =>
    subst hn
    have hpos := e.roomFor_pos m
    rcases e.notMem_or_line data with hfree | ⟨line, rest, hl, rfl⟩
    · by_cases hroom : data.length < e.roomFor m
      · exact found_unended hs hfree hroom skipping place
      · rcases h with hm | hr
        · obtain ⟨hf, hlen⟩ := isLine_take hfree hm (Nat.not_lt.mp hroom)
          rw [← List.take_append_drop (e.roomFor m) data]
          refine found_overflow hs hf hlen (fun place => ih _ ?_ _ (.inl hm) true place rfl) skipping
            place
          rw [List.length_drop]
          omega
        · exact absurd (tail_of_notMem hfree ▸ hr.tail) hroom
    · by_cases hroom : line.length + e.codeUnit ≤ e.roomFor m
      · refine found_line hs hl hroom (fun place => ih _ ?_ rest ?_ false place rfl) skipping place
        · have hw := e.codeUnit_pos
          rw [List.length_append, List.length_append, e.length_newline]
          omega
        · exact h.imp_right fun hr => (hr.behind hl).2
      · rcases h with hm | hr
        · -- the buffer ends where a code unit of the line does
          have hle : e.roomFor m ≤ line.length := by
            have hdvd : e.codeUnit ∣ e.roomFor m := Nat.dvd_add hm (Nat.dvd_mul_left _ _)
            obtain ⟨a, ha⟩ := hdvd
            obtain ⟨b, hb⟩ := hl.dvd
            rw [ha, hb] at hroom ⊢
            refine Nat.mul_le_mul_left _ (Nat.not_lt.mp fun hlt => hroom ?_)
            rw [← Nat.mul_succ]
            exact Nat.mul_le_mul_left _ hlt
          obtain ⟨hf, hlen⟩ := isLine_take hl.notMem hm hle
          rw [← List.take_append_drop (e.roomFor m) line, List.append_assoc]
          refine found_overflow hs hf hlen (fun place => ih _ ?_ _ (.inl hm) true place rfl) skipping
            place
          simp only [List.length_append, List.length_drop]
          omega
        · exact absurd (hr.behind hl).1 hroom

/-- A token is what a line holds that begins at a multiple of the code unit, and the place behind the
token is that behind the newline. -/
theorem token_of_mem_items {place : Nat} {bytes : Bytes} {stop : Nat}
    (h : (.token bytes, stop) ∈ e.items m place data) :
    ∃ front line rest, data = front ++ (line ++ (e.newline ++ rest)) ∧
      e.codeUnit ∣ front.length ∧ e.trim line = bytes ∧
      stop = place + front.length + (line.length + e.codeUnit) := by
  induction data using induct e generalizing place with
  | unended data hn =>
    rw [items_of_notMem hn] at h
    split at h
    · simp at h
    · exact absurd h List.not_mem_nil
  | line l rest hl ih =>
    rw [items_line hl] at h
    rcases List.mem_cons.mp h with h | h
    · refine ⟨[], l, rest, rfl, Nat.dvd_zero _, ?_⟩
      unfold report at h
      split at h
      · obtain ⟨ht, hs⟩ := Prod.mk.inj h
        exact ⟨(Scanned.token.inj ht).symm, hs⟩
      · split at h <;> simp at h
    · obtain ⟨front, l', rest', rfl, hdvd, ht, hs⟩ := ih h
      refine ⟨l ++ (e.newline ++ front), l', rest', ?_, ?_, ht, ?_⟩
      · simp only [List.append_assoc]
      · rw [List.length_append, List.length_append, e.length_newline]
        exact Nat.dvd_add hl.dvd (Nat.dvd_add (Nat.dvd_refl _) hdvd)
      · rw [hs, List.length_append, List.length_append, e.length_newline]
        omega

/-! ## Out of step -/

/-- A line that is one byte longer than the buffer, if that has an odd size, and an empty line. -/
def straddling (e : Encoding) (m : Nat) : Bytes :=
  (List.replicate ((e.roomFor m + 1) / 2) (e.ascii 0x61)).flatten ++
    (e.newline ++ (e.newline ++ []))

theorem codeUnit_cases (e : Encoding) : e.codeUnit = 1 ∨
    e.codeUnit = 2 ∧ (e = .charset .utf16le ∨ e = .charset .utf16be) := by
  unfold codeUnit
  split <;> simp

variable (hw : e.codeUnit = 2) (hm : m % 2 = 1)
include hw hm

theorem straddling_spec :
    ∃ init : Bytes, e.straddling m = init ++ (e.ascii 0x61 ++ (e.newline ++ (e.newline ++ []))) ∧
      init.length + 1 = e.roomFor m ∧ e.IsLine (init ++ e.ascii 0x61) := by
  have hne : e.newline ≠ e.ascii 0x61 := by
    unfold newline ascii
    split <;> decide
  obtain ⟨k, hk⟩ : ∃ k, (e.roomFor m + 1) / 2 = k + 1 := ⟨(e.roomFor m + 1) / 2 - 1, by
    rw [roomFor]
    omega⟩
  have hunits (n : Nat) : ∀ u ∈ List.replicate n (e.ascii 0x61), u.length = e.codeUnit :=
    fun u hu => by rw [List.eq_of_mem_replicate hu, length_ascii]
  have hline : (List.replicate k (e.ascii 0x61)).flatten ++ e.ascii 0x61 =
      (List.replicate (k + 1) (e.ascii 0x61)).flatten := by
    rw [List.replicate_succ', List.flatten_append, List.flatten_singleton]
  refine ⟨(List.replicate k (e.ascii 0x61)).flatten, ?_, ?_, ?_⟩
  · rw [straddling, hk, ← hline, List.append_assoc]
  · rw [List.length_flatten, List.map_replicate, List.sum_replicate_nat, length_ascii, hw]
    rw [roomFor, hw] at hk ⊢
    omega
  · rw [hline]
    refine ⟨Bytes.dvd_length_flatten (hunits _), fun h => ?_⟩
    rw [units, Bytes.units_flatten e.codeUnit_pos (hunits _)] at h
    exact hne (List.eq_of_mem_replicate h)

/-- The empty line is a token. -/
theorem items_straddling (place : Nat) :
    e.items m place (e.straddling m) =
      [(.oversized (e.roomFor m), place + e.roomFor m), (.token [], place + e.roomFor m + 5)] := by
  obtain ⟨init, hs, hlen, hline⟩ := straddling_spec hw hm
  have hroom : (init ++ e.ascii 0x61).length = e.roomFor m + 1 := by
    rw [List.length_append, length_ascii, hw]
    omega
  have hempty : e.newline ∉ e.units [] := e.isLine_nil.notMem
  have hnone : ¬ e.roomFor m ≤ ([] : Bytes).length := Nat.not_le.mpr (e.roomFor_pos m)
  have hfits : ([] : Bytes).length ≤ m := Nat.zero_le m
  rw [hs, ← List.append_assoc, items_line hline, report_of_overflows hline.dvd (by omega),
    ← List.nil_append (e.newline ++ []), items_line e.isLine_nil, items_of_notMem hempty,
    if_neg hnone, report, e.trim_nil, if_pos hfits, hroom, hw]
  rfl

/-- The bytes behind the full buffer hold no newline at a multiple of the code unit. -/
theorem drop_straddling :
    ((e.straddling m).drop (e.roomFor m)).length = 5 ∧
      ∀ complete, e.lines.cut ((e.straddling m).drop (e.roomFor m)) complete = .needsMore := by
  obtain ⟨init, hs, hlen, -⟩ := straddling_spec hw hm
  rw [hs, ← hlen, ← List.drop_drop, List.drop_left]
  rcases e.codeUnit_cases with h | ⟨-, rfl | rfl⟩
  · omega
  · exact ⟨rfl, by decide⟩
  · exact ⟨rfl, by decide⟩

/-- The empty line is passed over. -/
theorem found_straddling (hsized : e.lines.Sized m) (place : Nat) :
    (e.lines.found m false place (e.straddling m)).1 =
      [(.oversized (e.roomFor m), place + e.roomFor m)] := by
  obtain ⟨init, hs, hlen, hline⟩ := straddling_spec hw hm
  obtain ⟨hfive, hcut⟩ := drop_straddling hw hm
  have hroom : e.roomFor m = m + 4 := by rw [roomFor, hw]
  have hcap := capacityOf_lines hsized
  have hpos := capacityOf_lines_pos hsized
  have hfull : e.lines.cut ((e.straddling m).take (e.roomFor m)) false = .needsMore := by
    have hfirst := cut_line hline (e.newline ++ []) false
    rw [List.append_assoc, ← hs] at hfirst
    refine e.lines_stable.cut_take_of_lt hfirst ?_
    rw [List.length_append, length_ascii]
    omega
  have hle : e.roomFor m ≤ (e.straddling m).length := by
    have := congrArg List.length (List.take_append_drop (e.roomFor m) (e.straddling m))
    rw [List.length_append, List.length_take] at this
    omega
  have hskip : (e.lines.found m true (place + e.roomFor m)
      ((e.straddling m).drop (e.roomFor m))).1 = [] := by
    generalize (e.straddling m).drop (e.roomFor m) = rest at hfive hcut
    by_cases hlt : rest.length < e.roomFor m
    · rw [Framing.found_rest (by rwa [hcap]) (hcut true)]
    · have htake : rest.take (e.roomFor m) = rest := List.take_of_length_le (by omega)
      have hdrop : rest.drop (e.roomFor m) = [] := List.drop_of_length_le (by omega)
      have hnil : ([] : Bytes).length < Scanner.capacityOf e.lines m := hpos
      rw [← hcap] at hlt htake hdrop
      rw [Framing.found_full hpos (Nat.not_lt.mp hlt) (htake.symm ▸ hcut false), hdrop, if_pos rfl,
        Framing.found_rest hnil rfl]
  rw [← hcap] at hle hfull
  rw [Framing.found_full hpos hle hfull, hcap]
  simp only [Bool.false_eq_true, if_false, hskip]

end Encoding

namespace Scanner

/-- The scanner finds one item for each line of its stream, in order: what the line holds, or that it is
too large. Then the tail is at hand, unless it was too large. Every token begins at a multiple of the
code unit. -/
structure InStep (e : Encoding) (m : Nat) (source : Source) (place : Nat) : Prop where
  drains : ∃ t, Drains (new e.lines m source place) (e.items m place source.stream)
      source.failures t ∧
    t.takeRemaining.1 = e.remainder m source.stream ∧
    t.takeRemaining.2.position = place + source.stream.length
  aligned : ∀ bytes stop, (.token bytes, stop) ∈ e.items m place source.stream →
    ∃ front line rest, source.stream = front ++ (line ++ (e.newline ++ rest)) ∧
      e.codeUnit ∣ front.length ∧ e.trim line = bytes ∧
      stop = place + front.length + (line.length + e.codeUnit)

/-- The scanner is in step if full buffers hold whole code units, or none is thrown away. -/
theorem inStep_of {e : Encoding} {m : Nat} (hs : e.lines.Sized m) {source : Source}
    (h : e.codeUnit ∣ m ∨ e.Roomy m source.stream) (place : Nat) : InStep e m source place := by
  have hd := drains_found e.lines_stable (Encoding.capacityOf_lines_pos hs) source place
  rw [Encoding.found_eq_expected hs source.stream h] at hd
  exact ⟨hd, fun bytes stop => Encoding.token_of_mem_items⟩

/-- An empty line behind a line that straddles the end of a full buffer is lost. -/
theorem not_inStep_straddling {e : Encoding} {m : Nat} (hs : e.lines.Sized m)
    (h : ¬ e.codeUnit ∣ m) (place : Nat) : ¬ InStep e m { script := [.data (e.straddling m)] } place := by
  rintro ⟨⟨t, ht, -⟩, -⟩
  have hw : e.codeUnit = 2 := by
    rcases e.codeUnit_cases with hw | ⟨hw, -⟩
    · rw [hw] at h
      exact absurd (Nat.one_dvd m) h
    · exact hw
  have hm : m % 2 = 1 := by
    rw [hw] at h
    omega
  obtain ⟨u, hu, -⟩ := drains_found e.lines_stable (Encoding.capacityOf_lines_pos hs)
    { script := [.data (e.straddling m)] } place
  have hstream : Source.stream { script := [.data (e.straddling m)] } = e.straddling m := by
    simp [Source.stream, Source.streamOf]
  rw [hstream, Encoding.found_straddling hw hm hs] at hu
  rw [hstream, Encoding.items_straddling hw hm] at ht
  have := (hu.unique ht).1
  simp at this

/-- The lines `abc` and `d` in UTF-16. -/
def letters : Bytes :=
  [0x61, 0x00, 0x62, 0x00, 0x63, 0x00, 0x0A, 0x00, 0x64, 0x00, 0x0A, 0x00]

/-- For tokens of at most three bytes the buffer has room for seven, and `d` is lost. -/
theorem not_inStep_letters :
    ¬ InStep (.charset .utf16le) 3 { script := [.data letters] } 0 := by
  rintro ⟨⟨t, ht, -⟩, -⟩
  obtain ⟨u, hu, -⟩ := drains_found (Encoding.lines_stable (.charset .utf16le))
    (m := 3) (Encoding.capacityOf_lines_pos (by decide)) { script := [.data letters] } 0
  exact absurd (hu.unique ht).1 (by decide +kernel)

/-- **A scanner for lines of any encoding stays in step just if its buffer holds whole code units.** For
UTF-16 and an odd greatest size it does so where every line fits into the buffer, and on some streams
it loses the line behind one that does not. -/
theorem inStep_iff (e : Encoding) (m : Nat) (hs : e.lines.Sized m) :
    ((∀ source place, InStep e m source place) ↔ e.codeUnit ∣ m) ∧
      ∀ (source : Source) place, e.Roomy m source.stream → InStep e m source place := by
  refine ⟨⟨fun h => ?_, fun h source place => inStep_of hs (.inl h) place⟩,
    fun source place h => inStep_of hs (.inr h) place⟩
  by_contra hd
  exact not_inStep_straddling hs hd 0 (h _ 0)

/-- For tokens of at most four bytes the scanner stays in step on the two lines; for tokens of at most
three it does so where `abc` is left out. -/
theorem inStep_letters :
    (Encoding.charset .utf16le).lines.Sized 4 ∧ (Encoding.charset .utf16le).lines.Sized 3 ∧
      InStep (.charset .utf16le) 4
        { script := [.data (letters.take 3), .interrupted, .data (letters.drop 3)] } 0 ∧
      InStep (.charset .utf16le) 3 { script := [.data (letters.drop 8)] } 0 :=
  ⟨by decide, by decide, (inStep_iff (.charset .utf16le) 4 (by decide)).1.mpr (by decide) _ 0,
    (inStep_iff (.charset .utf16le) 3 (by decide)).2 _ 0 ⟨by decide +kernel, by decide +kernel⟩⟩

end Scanner

end LogFollow
