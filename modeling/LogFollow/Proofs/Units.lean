import LogFollow.Encoding
import LogFollow.Proofs.Framing
import LogFollow.Proofs.Segments

/-!
# The lines of a byte string in any encoding

An encoding cuts a byte string into code units, from its first byte on, and a line ends where one of
them is a newline. This module says what the lines of a byte string are for code units of any width,
and shows that the framing rule of the encoding finds the first of them. A newline that does not stand
at a multiple of the width is none.
-/
namespace LogFollow

namespace Bytes

/-- The code units of a byte string; the last one may be cut short. -/
def units (width : Nat) : Bytes → List Bytes
  | [] => []
  | b :: rest => (b :: rest.take (width - 1)) :: units width (rest.drop (width - 1))
termination_by data => data.length
decreasing_by
  rw [List.length_drop, List.length_cons]
  omega

variable {width : Nat} {unit data : Bytes}

theorem units_unit (hw : 0 < width) (hu : unit.length = width) (rest : Bytes) :
    units width (unit ++ rest) = unit :: units width rest := by
  cases unit with
  | nil => exact absurd hu (by simp; omega)
  | cons b unit =>
    have hl : unit.length = width - 1 := by
      rw [← hu, List.length_cons, Nat.add_sub_cancel]
    rw [List.cons_append, units, ← hl, List.take_left, List.drop_left]

theorem units_short (h : data ≠ []) (hl : data.length < width) : units width data = [data] := by
  cases data with
  | nil => exact absurd rfl h
  | cons b rest =>
    rw [List.length_cons] at hl
    rw [units, List.take_of_length_le (by omega), List.drop_of_length_le (by omega), units]

/-- Induction over the code units of a byte string, the first one first. -/
@[elab_as_elim]
theorem induct_units (hw : 0 < width) {motive : Bytes → Prop}
    (short : ∀ data : Bytes, data.length < width → motive data)
    (unit : ∀ unit rest : Bytes, unit.length = width → motive rest → motive (unit ++ rest))
    (data : Bytes) : motive data := by
  induction h : data.length using Nat.strong_induction_on generalizing data with
  | h n ih =>
    by_cases hl : data.length < width
    · exact short data hl
    · rw [← List.take_append_drop width data]
      refine unit _ _ (List.length_take_of_le (by omega)) (ih _ ?_ _ rfl)
      rw [List.length_drop]
      omega

/-- The code units make up the byte string. -/
theorem flatten_units (width : Nat) (data : Bytes) : (units width data).flatten = data := by
  fun_induction units width data with
  | case1 => rfl
  | case2 b rest ih => rw [List.flatten_cons, ih, List.cons_append, List.take_append_drop]

/-- Behind whole code units the next one begins. -/
theorem units_append (hw : 0 < width) {front : Bytes} (h : width ∣ front.length) (data : Bytes) :
    units width (front ++ data) = units width front ++ units width data := by
  induction front using induct_units hw with
  | short front hl =>
    obtain rfl : front = [] := List.length_eq_zero_iff.mp (Nat.eq_zero_of_dvd_of_lt h hl)
    rw [units]
    rfl
  | unit u rest hu ih =>
    rw [List.length_append, hu, Nat.dvd_add_right (Nat.dvd_refl width)] at h
    rw [List.append_assoc, units_unit hw hu, units_unit hw hu, ih h, List.cons_append]

theorem units_flatten (hw : 0 < width) {us : List Bytes} (h : ∀ u ∈ us, u.length = width) :
    units width us.flatten = us := by
  induction us with
  | nil => rw [List.flatten_nil, units]
  | cons u us ih =>
    obtain ⟨hu, hus⟩ := List.forall_mem_cons.mp h
    rw [List.flatten_cons, units_unit hw hu, ih hus]

theorem dvd_length_flatten {us : List Bytes} (h : ∀ u ∈ us, u.length = width) :
    width ∣ us.flatten.length := by
  rw [List.length_flatten, List.map_congr_left h, List.map_const', List.sum_replicate_nat]
  exact Nat.dvd_mul_left width us.length

/-- A code unit with another one behind it is not cut short. -/
theorem length_of_mem_units (hw : 0 < width) {before after : List Bytes}
    (h : units width data = before ++ after) (ha : after ≠ []) :
    ∀ u ∈ before, u.length = width := by
  induction data using induct_units hw generalizing before with
  | short data hl =>
    by_cases hd : data = []
    · rw [hd, units] at h
      exact absurd (List.append_eq_nil_iff.mp h.symm).2 ha
    · rw [units_short hd hl] at h
      rcases List.append_eq_singleton_iff.mp h.symm with ⟨rfl, -⟩ | ⟨-, hn⟩
      · exact fun u hu => absurd hu List.not_mem_nil
      · exact absurd hn ha
  | unit u rest hu ih =>
    rw [units_unit hw hu] at h
    cases before with
    | nil => exact fun v hv => absurd hv List.not_mem_nil
    | cons v before =>
      obtain ⟨rfl, hr⟩ := List.cons.inj h
      exact List.forall_mem_cons.mpr ⟨hu, ih hr⟩

/-- A byte string has a last code unit, which may be cut short. -/
theorem exists_last_unit (hw : 0 < width) (h : data ≠ []) :
    ∃ init part, data = init ++ part ∧ width ∣ init.length ∧ part ≠ [] ∧ part.length ≤ width := by
  induction data using induct_units hw with
  | short data hl => exact ⟨[], data, rfl, Nat.dvd_zero _, h, Nat.le_of_lt hl⟩
  | unit u rest hu ih =>
    by_cases hr : rest = []
    · subst hr
      rw [List.append_nil] at h ⊢
      exact ⟨[], u, rfl, Nat.dvd_zero _, h, Nat.le_of_eq hu⟩
    · obtain ⟨init, part, rfl, hi, hp, hl⟩ := ih hr
      refine ⟨u ++ init, part, (List.append_assoc _ _ _).symm, ?_, hp, hl⟩
      rw [List.length_append, hu]
      exact Nat.dvd_add (Nat.dvd_refl _) hi

/-- Bytes up to the next place that counts are passed over. -/
theorem alignedIndexFrom_skip {mark front : Bytes} {i : Nat}
    (h : ∀ j < front.length, (i + j) % width ≠ 0) (rest : Bytes) :
    alignedIndexFrom i mark width (front ++ rest) =
      alignedIndexFrom (i + front.length) mark width rest := by
  induction front generalizing i with
  | nil => rfl
  | cons b front ih =>
    have h₀ : i % width ≠ 0 := h 0 (by simp)
    rw [List.cons_append, alignedIndexFrom, if_neg (fun hc => h₀ hc.1), ih, List.length_cons]
    · congr 1
      omega
    · intro j hj
      have := h (j + 1) (by rw [List.length_cons]; omega)
      rwa [show i + 1 + j = i + (j + 1) by omega]

/-- A code unit at a place that counts is the one looked for, or it is passed over. -/
theorem alignedIndexFrom_unit {mark : Bytes} (hw : 0 < width) (hm : mark.length = width)
    (hu : unit.length = width) {i : Nat} (hi : width ∣ i) (rest : Bytes) :
    alignedIndexFrom i mark width (unit ++ rest) =
      if unit = mark then some i else alignedIndexFrom (i + width) mark width rest := by
  have hfront : mark.isPrefixOf (unit ++ rest) ↔ unit = mark := by
    rw [List.isPrefixOf_iff_prefix]
    constructor
    · intro h
      exact ((List.prefix_of_prefix_length_le h (List.prefix_append unit rest)
        (by omega)).eq_of_length (by omega)).symm
    · rintro rfl
      exact List.prefix_append unit rest
  cases unit with
  | nil => exact absurd hu (by simp; omega)
  | cons b unit =>
    rw [List.cons_append] at hfront ⊢
    rw [alignedIndexFrom]
    by_cases hb : b :: unit = mark
    · rw [if_pos ⟨Nat.mod_eq_zero_of_dvd hi, hfront.mpr hb⟩, if_pos hb]
    · rw [List.length_cons] at hu
      rw [if_neg (fun hc => hb (hfront.mp hc.2)), if_neg hb, alignedIndexFrom_skip]
      · congr 1
        omega
      · intro j hj
        obtain ⟨k, rfl⟩ := hi
        rw [Nat.add_assoc, Nat.mul_add_mod_self_left, Nat.mod_eq_of_lt (by omega)]
        omega

theorem alignedIndexFrom_of_notMem {mark : Bytes} (hw : 0 < width) (hm : mark.length = width)
    (h : mark ∉ units width data) {i : Nat} (hi : width ∣ i) :
    alignedIndexFrom i mark width data = none := by
  induction data using induct_units hw generalizing i with
  | short data hl =>
    cases hc : alignedIndexFrom i mark width data with
    | none => rfl
    | some stop =>
      have := alignedIndexFrom_spec hc
      omega
  | unit u rest hu ih =>
    rw [units_unit hw hu] at h
    obtain ⟨hne, hrest⟩ := List.ne_and_not_mem_of_not_mem_cons h
    rw [alignedIndexFrom_unit hw hm hu hi, if_neg hne.symm, ih hrest (Nat.dvd_add hi (Nat.dvd_refl _))]

theorem alignedIndexFrom_line {mark line : Bytes} (hw : 0 < width) (hm : mark.length = width)
    (hl : width ∣ line.length) (h : mark ∉ units width line) {i : Nat} (hi : width ∣ i)
    (rest : Bytes) :
    alignedIndexFrom i mark width (line ++ (mark ++ rest)) = some (i + line.length) := by
  induction line using induct_units hw generalizing i with
  | short line hs =>
    obtain rfl : line = [] := List.length_eq_zero_iff.mp (Nat.eq_zero_of_dvd_of_lt hl hs)
    rw [List.nil_append, alignedIndexFrom_unit hw hm hm hi, if_pos rfl]
    rfl
  | unit u line hu ih =>
    rw [List.length_append, hu, Nat.dvd_add_right (Nat.dvd_refl width)] at hl
    rw [units_unit hw hu] at h
    obtain ⟨hne, hrest⟩ := List.ne_and_not_mem_of_not_mem_cons h
    rw [List.append_assoc, alignedIndexFrom_unit hw hm hu hi, if_neg hne.symm,
      ih hl hrest (Nat.dvd_add hi (Nat.dvd_refl _)), List.length_append, hu, Nat.add_assoc]

end Bytes

namespace Encoding

variable (e : Encoding)

/-- The code unit that ends a line. -/
def newline : Bytes := e.ascii 0x0A

/-- The code unit that may stand before the newline without being part of the line. -/
def carriageReturn : Bytes := e.ascii 0x0D

/-- The code units of a byte string. -/
def units (data : Bytes) : List Bytes := Bytes.units e.codeUnit data

/-- The lines that end with a newline, without it. -/
def whole (data : Bytes) : List Bytes := (Segments.whole e.newline (e.units data)).map List.flatten

/-- What stands behind the last newline. -/
def tail (data : Bytes) : Bytes := (Segments.tail e.newline (e.units data)).flatten

/-- A line without the carriage return at its end. -/
def trim (line : Bytes) : Bytes := (Segments.trim e.carriageReturn (e.units line)).flatten

theorem codeUnit_pos : 0 < e.codeUnit := by
  unfold codeUnit
  split <;> decide

theorem length_ascii (c : UInt8) : (e.ascii c).length = e.codeUnit := by
  unfold ascii codeUnit
  split <;> rfl

theorem ascii_of_codeUnit {e : Encoding} (h : e.codeUnit = 1) (c : UInt8) : e.ascii c = [c] := by
  unfold codeUnit at h
  unfold ascii
  split at h <;> first | rfl | exact absurd h (by decide)

theorem length_newline : e.newline.length = e.codeUnit := e.length_ascii _

theorem length_carriageReturn : e.carriageReturn.length = e.codeUnit := e.length_ascii _

/-- The bytes are code units, none of them cut short, and none of them a newline. -/
structure IsLine (line : Bytes) : Prop where
  dvd : e.codeUnit ∣ line.length
  notMem : e.newline ∉ e.units line

variable {e} {data line front : Bytes}

theorem units_append (h : e.codeUnit ∣ front.length) (data : Bytes) :
    e.units (front ++ data) = e.units front ++ e.units data :=
  Bytes.units_append e.codeUnit_pos h data

theorem units_newline (rest : Bytes) : e.units (e.newline ++ rest) = e.newline :: e.units rest :=
  Bytes.units_unit e.codeUnit_pos e.length_newline rest

theorem units_line (h : e.codeUnit ∣ line.length) (rest : Bytes) :
    e.units (line ++ (e.newline ++ rest)) = e.units line ++ e.newline :: e.units rest := by
  rw [units_append h, units_newline]

theorem flatten_units (data : Bytes) : (e.units data).flatten = data :=
  Bytes.flatten_units e.codeUnit data

theorem whole_of_notMem (h : e.newline ∉ e.units data) : e.whole data = [] := by
  rw [whole, Segments.whole_of_notMem h]
  rfl

theorem tail_of_notMem (h : e.newline ∉ e.units data) : e.tail data = data := by
  rw [tail, Segments.tail_of_notMem h, flatten_units]

theorem whole_line (h : e.IsLine line) (rest : Bytes) :
    e.whole (line ++ (e.newline ++ rest)) = line :: e.whole rest := by
  rw [whole, units_line h.dvd, Segments.whole_segment h.notMem, List.map_cons, flatten_units, whole]

theorem tail_line (h : e.IsLine line) (rest : Bytes) :
    e.tail (line ++ (e.newline ++ rest)) = e.tail rest := by
  rw [tail, units_line h.dvd, Segments.tail_segment h.notMem, tail]

/-- A byte string has no newline, or it begins with a line. -/
theorem notMem_or_line (e : Encoding) (data : Bytes) :
    e.newline ∉ e.units data ∨
      ∃ line rest, e.IsLine line ∧ data = line ++ (e.newline ++ rest) := by
  rcases Segments.notMem_or_segment e.newline (e.units data) with h | ⟨segment, rest, hs, hu⟩
  · exact .inl h
  · have hlen := Bytes.length_of_mem_units e.codeUnit_pos hu (List.cons_ne_nil _ _)
    refine .inr ⟨segment.flatten, rest.flatten, ⟨Bytes.dvd_length_flatten hlen, ?_⟩, ?_⟩
    · rwa [units, Bytes.units_flatten e.codeUnit_pos hlen]
    · rw [← flatten_units (e := e) data, hu, List.flatten_append, List.flatten_cons]

/-- Induction over the lines of a byte string, the first one first. -/
@[elab_as_elim]
theorem induct (e : Encoding) {motive : Bytes → Prop}
    (unended : ∀ data, e.newline ∉ e.units data → motive data)
    (line : ∀ l rest, e.IsLine l → motive rest → motive (l ++ (e.newline ++ rest)))
    (data : Bytes) : motive data := by
  induction h : data.length using Nat.strong_induction_on generalizing data with
  | h n ih =>
    rcases e.notMem_or_line data with hn | ⟨l, rest, hl, rfl⟩
    · exact unended data hn
    · refine line l rest hl (ih rest.length ?_ rest rfl)
      have hpos := e.codeUnit_pos
      rw [← h, List.length_append, List.length_append, e.length_newline]
      omega

/-- The lines with their newlines, and the tail, make up the byte string. -/
theorem flatMap_whole_append_tail (e : Encoding) (data : Bytes) :
    ((e.whole data).flatMap fun l => l ++ e.newline) ++ e.tail data = data := by
  induction data using induct e with
  | unended data h => rw [whole_of_notMem h, tail_of_notMem h]; rfl
  | line l rest h ih =>
    rw [whole_line h, tail_line h, List.flatMap_cons, List.append_assoc, ih, List.append_assoc]

theorem isLine_of_mem_whole (h : line ∈ e.whole data) : e.IsLine line := by
  induction data using induct e with
  | unended data hn => rw [whole_of_notMem hn] at h; exact absurd h List.not_mem_nil
  | line l rest hl ih =>
    rw [whole_line hl] at h
    rcases List.mem_cons.mp h with rfl | h
    · exact hl
    · exact ih h

theorem notMem_tail (e : Encoding) (data : Bytes) : e.newline ∉ e.units (e.tail data) := by
  induction data using induct e with
  | unended data h => rwa [tail_of_notMem h]
  | line l rest h ih => rwa [tail_line h]

theorem IsLine.append (hf : e.IsLine front) (hl : e.IsLine line) : e.IsLine (front ++ line) := by
  refine ⟨?_, ?_⟩
  · rw [List.length_append]
    exact Nat.dvd_add hf.dvd hl.dvd
  · rw [units_append hf.dvd]
    exact List.not_mem_append hf.notMem hl.notMem

theorem IsLine.notMem_append (hf : e.IsLine front) (h : e.newline ∉ e.units data) :
    e.newline ∉ e.units (front ++ data) := by
  rw [units_append hf.dvd]
  exact List.not_mem_append hf.notMem h

theorem isLine_nil (e : Encoding) : e.IsLine [] := ⟨Nat.dvd_zero _, by simp [units, Bytes.units]⟩

/-! ## The carriage return -/

/-- Whole code units are none, or they have a last one. -/
theorem eq_nil_or_concat_unit (h : e.codeUnit ∣ line.length) :
    line = [] ∨ ∃ init unit, e.codeUnit ∣ init.length ∧ unit.length = e.codeUnit ∧
      line = init ++ unit ∧ e.units line = e.units init ++ [unit] := by
  by_cases hl : line = []
  · exact .inl hl
  · have hpos := List.length_pos_iff.mpr hl
    have hle := Nat.le_of_dvd hpos h
    have hinit : e.codeUnit ∣ (line.take (line.length - e.codeUnit)).length := by
      rw [List.length_take_of_le (Nat.sub_le _ _)]
      exact Nat.dvd_sub h (Nat.dvd_refl _)
    have hunit : (line.drop (line.length - e.codeUnit)).length = e.codeUnit := by
      rw [List.length_drop]
      omega
    refine .inr ⟨_, _, hinit, hunit, (List.take_append_drop _ line).symm, ?_⟩
    conv_lhs => rw [← List.take_append_drop (line.length - e.codeUnit) line]
    rw [units_append hinit]
    congr 1
    have hone := Bytes.units_unit e.codeUnit_pos hunit []
    rwa [List.append_nil, Bytes.units] at hone

theorem trim_nil (e : Encoding) : e.trim [] = [] := by
  rw [trim, units, Bytes.units]
  rfl

theorem trim_concat {init unit : Bytes} (h : e.units line = e.units init ++ [unit]) :
    e.trim line = if unit = e.carriageReturn then init else init ++ unit := by
  rw [trim, h, Segments.trim_concat]
  split
  · exact flatten_units init
  · rw [List.flatten_append, flatten_units, List.flatten_singleton]

/-- The line is what it holds, or that and a carriage return. -/
theorem trim_or (h : e.codeUnit ∣ line.length) :
    e.trim line = line ∨ line = e.trim line ++ e.carriageReturn := by
  rcases eq_nil_or_concat_unit h with rfl | ⟨init, unit, -, -, hl, hu⟩
  · exact .inl (e.trim_nil)
  · rw [trim_concat hu]
    by_cases hc : unit = e.carriageReturn
    · rw [if_pos hc, ← hc]
      exact .inr hl
    · rw [if_neg hc]
      exact .inl hl.symm

theorem length_le_length_trim (h : e.codeUnit ∣ line.length) :
    line.length ≤ (e.trim line).length + e.codeUnit := by
  rcases trim_or h with ht | ht
  · rw [ht]
    omega
  · have := congrArg List.length ht
    rw [List.length_append, e.length_carriageReturn] at this
    omega

theorem take_length_trim (h : e.codeUnit ∣ line.length) (rest : Bytes) :
    (line ++ rest).take (e.trim line).length = e.trim line := by
  rcases trim_or h with ht | ht
  · rw [ht, List.take_left]
  · have hl : line ++ rest = e.trim line ++ (e.carriageReturn ++ rest) := by
      rw [← List.append_assoc, ← ht]
    rw [hl, List.take_left]

theorem endsAt_line (h : e.codeUnit ∣ line.length) (rest : Bytes) :
    (if Bytes.endsAt e.carriageReturn (line ++ rest) line.length then
        line.length - e.carriageReturn.length
      else line.length) = (e.trim line).length := by
  rcases eq_nil_or_concat_unit h with rfl | ⟨init, unit, -, hlen, rfl, hu⟩
  · rw [e.trim_nil]
    simp
  · have hends : Bytes.endsAt e.carriageReturn (init ++ unit ++ rest) (init ++ unit).length =
        decide (unit = e.carriageReturn) := by
      have hdrop : (init ++ unit).length - e.codeUnit = init.length := by
        rw [List.length_append]
        omega
      have hle : e.codeUnit ≤ (init ++ unit).length := by
        rw [List.length_append]
        omega
      rw [Bytes.endsAt, e.length_carriageReturn, Bytes.slice, hdrop, List.append_assoc,
        List.drop_left, List.length_append, Nat.add_sub_cancel_left, List.take_left]
      rw [List.length_append] at hle
      rw [decide_eq_true hle, Bool.true_and, beq_eq_decide]
    rw [hends, trim_concat hu, e.length_carriageReturn]
    by_cases hc : unit = e.carriageReturn
    · rw [if_pos hc, if_pos (decide_eq_true hc), List.length_append]
      omega
    · rw [if_neg hc, if_neg (by simpa using hc)]

/-! ## The framing rule -/

/-- Without a newline the rule finds nothing. -/
theorem cut_of_notMem (h : e.newline ∉ e.units data) (complete : Bool) :
    e.lines.cut data complete = .needsMore := by
  have hi : Bytes.alignedIndex? e.newline e.codeUnit data = none :=
    Bytes.alignedIndexFrom_of_notMem e.codeUnit_pos e.length_newline h (Nat.dvd_zero _)
  unfold Framing.cut
  split
  · rfl
  · change Framing.cutLine e.newline e.carriageReturn e.codeUnit data = _
    rw [Framing.cutLine, hi]

/-- The rule finds the first line, and uses up its newline as well. -/
theorem cut_line (h : e.IsLine line) (rest : Bytes) (complete : Bool) :
    e.lines.cut (line ++ (e.newline ++ rest)) complete =
      .token (line.length + e.codeUnit) ⟨0, (e.trim line).length⟩ := by
  have hi : Bytes.alignedIndex? e.newline e.codeUnit (line ++ (e.newline ++ rest)) =
      some (0 + line.length) :=
    Bytes.alignedIndexFrom_line e.codeUnit_pos e.length_newline h.dvd h.notMem (Nat.dvd_zero _) rest
  have hne : (line ++ (e.newline ++ rest)).isEmpty = false := by
    have hpos := e.codeUnit_pos
    rw [List.isEmpty_eq_false_iff, ← List.length_pos_iff, List.length_append, List.length_append,
      e.length_newline]
    omega
  rw [Framing.cut.eq_def, hne]
  change Framing.cutLine e.newline e.carriageReturn e.codeUnit _ = _
  simp only [Framing.cutLine, hi, Nat.zero_add, endsAt_line h.dvd, e.length_newline]

/-- More bytes change nothing in front of the first newline. -/
theorem lines_stable (e : Encoding) : e.lines.Stable where
  front := Framing.cutsFront_newline _ _ _
  pos data complete advance token h := by
    rcases e.notMem_or_line data with hn | ⟨line, rest, hl, rfl⟩
    · rw [cut_of_notMem hn] at h
      cases h
    · rw [cut_line hl] at h
      obtain ⟨rfl, -⟩ := Cut.token.inj h
      exact Nat.add_pos_right _ e.codeUnit_pos
  stays data advance token h more complete := by
    rcases e.notMem_or_line data with hn | ⟨line, rest, hl, rfl⟩
    · rw [cut_of_notMem hn] at h
      cases h
    · rw [cut_line hl] at h
      rw [List.append_assoc, List.append_assoc, cut_line hl, h]

/-- **Cutting tokens until more is needed gives what the lines hold, and leaves the tail.** -/
theorem split_lines (e : Encoding) (complete : Bool) (data : Bytes) :
    e.lines.split complete data = ((e.whole data).map e.trim, e.tail data) := by
  induction data using induct e with
  | unended data h =>
    rw [Framing.split_needsMore (cut_of_notMem h complete), whole_of_notMem h, tail_of_notMem h]
    rfl
  | line l rest h ih =>
    have hdrop : (l ++ (e.newline ++ rest)).drop (l.length + e.codeUnit) = rest := by
      rw [← List.append_assoc, ← e.length_newline, ← List.length_append, List.drop_left]
    have hslice : Bytes.slice (l ++ (e.newline ++ rest)) 0 (e.trim l).length = e.trim l := by
      rw [Bytes.slice, List.drop_zero, Nat.sub_zero, take_length_trim h.dvd]
    rw [Framing.split_token e.lines_stable (cut_line h rest complete), hdrop, ih, hslice,
      whole_line h, tail_line h]
    rfl

end Encoding

end LogFollow
