import LogFollow.Event.Timestamp
import LogFollow.Proofs.Json.Digits

/-!
# The text of a timestamp names it

The text of a moment is read back part by part. Each number stands in as many digits as it is read
with, or in front of a mark that is no digit, and each mark is found where it was written. A second
of sixty stands for a leap second, whose nanoseconds are counted on.
-/
namespace LogFollow

open Json (isDigit NoDigit)

/-! ## Dates -/

namespace Date

theorem isValid_iff {d : Date} : d.isValid = true ↔
    leastYear ≤ d.year ∧ d.year ≤ greatestYear ∧ 1 ≤ d.month ∧ d.month ≤ 12 ∧
      1 ≤ d.day ∧ d.day ≤ daysOfMonth d.year d.month := by
  simp only [isValid, Bool.and_eq_true, decide_eq_true_eq, and_assoc]

theorem daysOfMonth_le (year : Int) (month : Nat) : daysOfMonth year month ≤ 31 := by
  unfold daysOfMonth
  repeat' split
  all_goals omega

end Date

namespace Timestamp

/-- A moment that there is: a day of the calendar, a second of it, and a nanosecond of that. Only the
last second of a minute can be a leap second. -/
structure IsMoment (t : Timestamp) : Prop where
  date : t.date.isValid = true
  second : t.second < daySeconds
  nanosecond : t.nanosecond < 1000000000 ∨ t.second % 60 = 59 ∧ t.nanosecond < 2000000000

instance : DecidablePred IsMoment := fun _ =>
  decidable_of_iff (_ ∧ _ ∧ _)
    ⟨fun h => ⟨h.1, h.2.1, h.2.2⟩, fun h => ⟨h.date, h.second, h.nanosecond⟩⟩

/-! ## Numbers -/

theorem isDigit_of_mem_padded {width n : Nat} {c : Char} (h : c ∈ padded width n) :
    isDigit c = true := by
  rcases List.mem_append.mp h with h | h
  · rw [(List.mem_replicate.mp h).2]
    rfl
  · exact Json.isDigit_of_mem_writeNat h

theorem padded_ne_nil (width n : Nat) : padded width n ≠ [] := by
  rw [padded]
  exact List.append_ne_nil_of_right_ne_nil _ (Json.writeNat_ne_nil n)

/-- A number that fits has as many digits as it is written with. -/
theorem length_padded {width n : Nat} (hw : 0 < width) (hn : n < Nat.pow 10 width) :
    (padded width n).length = width := by
  have hlength : (Nat.toDigits 10 n).length ≤ width :=
    (Nat.length_toDigits_le_iff (by decide) hw).mpr hn
  rw [padded, List.length_append, List.length_replicate]
  omega

theorem foldl_padded (width n : Nat) :
    (padded width n).foldl (fun n c => n * 10 + Json.digitValue c) 0 = n := by
  rw [Json.foldl_digits, padded, Nat.ofDigitChars_append, Nat.ofDigitChars_replicate_zero,
    Nat.mul_zero]
  exact Nat.ofDigitChars_ten_toDigits

/-- A run of digits belongs to a number if it has as many digits as are wanted, or fewer of them and
no digit behind them. -/
theorem leadingDigits_append {width : Option Nat} {digits rest : List Char}
    (hd : ∀ c ∈ digits, isDigit c = true)
    (hends : width = some digits.length ∨ NoDigit rest ∧ ∀ w ∈ width, digits.length ≤ w) :
    leadingDigits width (digits ++ rest) = digits := by
  rcases hends with rfl | ⟨hr, hw⟩
  · rw [leadingDigits, List.takeWhile_append_of_pos hd]
    exact List.take_left
  · unfold leadingDigits
    rw [Json.takeWhile_digits hd hr]
    cases width with
    | none => rfl
    | some w => exact List.take_of_length_le (hw w rfl)

theorem number_of_leadingDigits {width : Option Nat} {digits rest : List Char} {n : Nat}
    (hd : leadingDigits width (digits ++ rest) = digits) (hne : digits ≠ [])
    (hvalue : digits.foldl (fun n c => n * 10 + Json.digitValue c) 0 = n) (hmax : n ≤ maxNumber) :
    number width (digits ++ rest) = .ok (n, rest) := by
  have htext : (digits ++ rest).isEmpty = false := by simpa using fun h => absurd h hne
  have hdigits : digits.isEmpty = false := by simpa using hne
  rw [number]
  simp only [hd, htext, hdigits, hvalue, Bool.false_eq_true, if_false,
    if_neg (Nat.not_lt.mpr hmax), List.drop_left]

/-- A number that is written with some digits is read with as many. -/
theorem number_padded (width : Nat) {n : Nat} (hw : 0 < width) (hn : n < Nat.pow 10 width)
    (hmax : n ≤ maxNumber) (rest : List Char) :
    number (some width) (padded width n ++ rest) = .ok (n, rest) := by
  have hd : leadingDigits (some width) (padded width n ++ rest) = padded width n := by
    apply leadingDigits_append
    · exact fun c => isDigit_of_mem_padded
    · exact .inl (by rw [length_padded hw hn])
  exact number_of_leadingDigits hd (padded_ne_nil width n) (foldl_padded width n) hmax

/-- A number that is written with some digits is read where no digit follows and more are allowed. -/
theorem number_of_noDigit (width : Option Nat) (w : Nat) {n : Nat} {rest : List Char}
    (hw : ∀ most ∈ width, (padded w n).length ≤ most) (hmax : n ≤ maxNumber) (hr : NoDigit rest) :
    number width (padded w n ++ rest) = .ok (n, rest) := by
  have hd : leadingDigits width (padded w n ++ rest) = padded w n := by
    apply leadingDigits_append
    · exact fun c => isDigit_of_mem_padded
    · exact .inr ⟨hr, hw⟩
  exact number_of_leadingDigits hd (padded_ne_nil w n) (foldl_padded w n) hmax

/-! ## Blanks and marks -/

theorem isBlank_of_isDigit {c : Char} (h : isDigit c = true) : Text.isBlank c = false := by
  have hrange := Json.toNat_of_isDigit h
  simp only [Text.isBlank, Bool.or_eq_false_iff, Bool.and_eq_false_iff, decide_eq_false_iff_not,
    beq_eq_false_iff_ne]
  omega

theorem skipBlanks_cons {c : Char} (h : Text.isBlank c = false) (rest : List Char) :
    skipBlanks (c :: rest) = c :: rest := by
  rw [skipBlanks, List.dropWhile_cons_of_neg (by simp [h])]

/-- What begins with a number begins with a digit. -/
theorem isDigit_of_padded_eq_cons {width n : Nat} {c : Char} {rest tail : List Char}
    (h : padded width n ++ rest = c :: tail) : isDigit c = true := by
  cases hw : padded width n with
  | nil => exact absurd hw (padded_ne_nil width n)
  | cons d digits =>
    rw [hw, List.cons_append, List.cons.injEq] at h
    have hmem : c ∈ padded width n := by
      rw [hw, h.1]
      exact List.mem_cons_self
    exact isDigit_of_mem_padded hmem

/-- There is no blank in front of a number. -/
theorem skipBlanks_padded (width n : Nat) (rest : List Char) :
    skipBlanks (padded width n ++ rest) = padded width n ++ rest := by
  cases hw : padded width n ++ rest with
  | nil => rfl
  | cons c tail => exact skipBlanks_cons (isBlank_of_isDigit (isDigit_of_padded_eq_cons hw)) tail

theorem twoDigits_padded (least greatest : Nat) {n : Nat} (hl : least ≤ n) (hg : n ≤ greatest)
    (hn : n < 100) (rest : List Char) :
    twoDigits least greatest (padded 2 n ++ rest) = .ok (n, rest) := by
  have hmax : n ≤ maxNumber := by
    rw [maxNumber]
    omega
  rw [twoDigits, skipBlanks_padded, number_padded 2 (by decide) hn hmax]
  simp only [bind, Except.bind, if_pos (show least ≤ n ∧ n ≤ greatest from ⟨hl, hg⟩)]
  rfl

theorem mark_cons {c : Char} (h : Text.isBlank c = false) (rest : List Char) :
    mark c (c :: rest) = .ok rest := by
  rw [mark, skipBlanks_cons h]
  exact if_pos rfl

/-! ## Years and fractions -/

/-- A year is read with its sign if it has one, and as four digits if it has none. -/
theorem year_renderYear {y : Int} (hl : Date.leastYear ≤ y) (hg : y ≤ Date.greatestYear)
    {rest : List Char} (hr : NoDigit rest) : year (renderYear y ++ rest) = .ok (y, rest) := by
  rw [Date.leastYear] at hl
  rw [Date.greatestYear] at hg
  have hrange : -maxYear - 1 ≤ y ∧ y ≤ maxYear := by
    rw [maxYear]
    omega
  have hmax : y.natAbs ≤ maxNumber := by
    rw [maxNumber]
    omega
  have hread := number_of_noDigit none 4 (by simp) hmax hr
  rw [renderYear]
  split
  · next hfour =>
    have hnumber := number_padded 4 (by decide)
      (show y.toNat < 10000 by omega) (by omega) rest
    have hy : (y.toNat : Int) = y := by omega
    rw [year, skipBlanks_padded]
    split
    · next heq => exact absurd (isDigit_of_padded_eq_cons heq) (by decide)
    · next heq => exact absurd (isDigit_of_padded_eq_cons heq) (by decide)
    · simp only [bind, Except.bind, hnumber, pure, Except.pure, hy, if_pos hrange]
  · split
    · next hneg =>
      have hy : -(y.natAbs : Int) = y := by omega
      rw [List.cons_append, year, skipBlanks_cons (by decide)]
      simp only [bind, Except.bind, hread, pure, Except.pure, hy, if_pos hrange]
    · next hpos =>
      have hy : (y.natAbs : Int) = y := by omega
      rw [List.cons_append, year, skipBlanks_cons (by decide)]
      simp only [bind, Except.bind, hread, pure, Except.pure, hy, if_pos hrange]

/-- The digits behind the point are read as nanoseconds, be they three, six or nine. -/
theorem fraction_padded {width n : Nat} (hw : 0 < width) (hnine : width ≤ 9)
    (hn : n < Nat.pow 10 width) {rest : List Char} (hr : NoDigit rest) :
    fraction ('.' :: (padded width n ++ rest)) = .ok (n * Nat.pow 10 (9 - width), rest) := by
  have hlength := length_padded hw hn
  have hmax : n ≤ maxNumber := by
    have hpow : Nat.pow 10 width ≤ Nat.pow 10 9 := Nat.pow_le_pow_right (by decide) hnine
    have hnine : Nat.pow 10 9 ≤ maxNumber := by decide
    omega
  have hread := number_of_noDigit (some 9) width
    (by simpa [hlength] using hnine) hmax hr
  have hdigits : (padded width n ++ rest).length - rest.length = width := by
    rw [List.length_append, hlength, Nat.add_sub_cancel]
  have hdrop : rest.dropWhile isDigit = rest := Json.dropWhile_digits (List.forall_mem_nil _) hr
  rw [fraction]
  simp only [bind, Except.bind, hread, hdigits, hdrop]
  rfl

theorem fraction_renderFraction {n : Nat} (hn : n < 1000000000) (rest : List Char) :
    fraction (renderFraction n ++ 'Z' :: rest) = .ok (n, 'Z' :: rest) := by
  have hz : NoDigit ('Z' :: rest) := NoDigit.cons (by decide) rest
  rw [renderFraction]
  split
  · next hzero => rw [hzero]; rfl
  split
  · next hmilli =>
    rw [List.cons_append, fraction_padded (by decide) (by decide)
      (show n / 1000000 < 1000 by omega) hz]
    congr 2
    show n / 1000000 * 1000000 = n
    omega
  split
  · next hmicro =>
    rw [List.cons_append, fraction_padded (by decide) (by decide)
      (show n / 1000 < 1000000 by omega) hz]
    congr 2
    show n / 1000 * 1000 = n
    omega
  · rw [List.cons_append, fraction_padded (by decide) (by decide) hn hz]
    congr 2
    show n * 1 = n
    omega

/-! ## Timestamps -/

/-- Without an offset a moment stays where it is. -/
theorem shift_zero {t : Timestamp} (h : t.second < daySeconds) : t.shift 0 = t := by
  have hpos : ¬ (t.second : Int) < 0 := by omega
  have hlt : (t.second : Int) < daySeconds := by omega
  simp only [shift, Int.add_zero, if_neg hpos, if_pos hlt, Int.toNat_natCast]

/-- The numbers in the text of a moment. -/
def parts (t : Timestamp) : Parts where
  date := t.date
  hour := t.second / 3600
  minute := t.second / 60 % 60
  second := t.second % 60 + if 1000000000 ≤ t.nanosecond then 1 else 0
  nanosecond := if 1000000000 ≤ t.nanosecond then t.nanosecond - 1000000000 else t.nanosecond
  offset := 0

theorem readParts_render {t : Timestamp} (h : t.IsMoment) : readParts t.render = .ok t.parts := by
  obtain ⟨hleast, hgreatest, hmonth, hmonth', hday, hday'⟩ := Date.isValid_iff.mp h.date
  have hdays := Date.daysOfMonth_le t.date.year t.date.month
  have hsecond := h.second
  rw [daySeconds] at hsecond
  have hyear (rest : List Char) : year (renderYear t.date.year ++ '-' :: rest) =
      .ok (t.date.year, '-' :: rest) :=
    year_renderYear hleast hgreatest (NoDigit.cons (by decide) rest)
  have hmonths := twoDigits_padded 1 12 hmonth hmonth' (by omega)
  have hdates := twoDigits_padded 1 31 hday (by omega) (by omega)
  have hhours := twoDigits_padded 0 23 (n := t.second / 3600)
    (by omega) (by omega) (by omega)
  have hminutes := twoDigits_padded 0 59 (n := t.second / 60 % 60)
    (by omega) (by omega) (by omega)
  have hseconds := twoDigits_padded 0 60
    (n := t.second % 60 + if 1000000000 ≤ t.nanosecond then 1 else 0)
    (by omega) (by split <;> omega) (by split <;> omega)
  have hdash := mark_cons (c := '-') (by decide)
  have hcolon := mark_cons (c := ':') (by decide)
  have hseparator (rest : List Char) : separator ('T' :: rest) = .ok rest := rfl
  have hfraction := fraction_renderFraction
    (n := if 1000000000 ≤ t.nanosecond then t.nanosecond - 1000000000 else t.nanosecond)
    (by have := h.nanosecond; split <;> omega) []
  rw [readParts, render, String.toList_ofList]
  simp only [List.append_assoc, List.cons_append, bind, Except.bind, hyear, hmonths, hdates, hhours,
    hminutes, hseconds, hdash, hcolon, hseparator, hfraction]
  rfl

/-- The parts of a moment name its time of day, and its leap second if it is one. -/
theorem clock_parts {t : Timestamp} (h : t.IsMoment) : t.parts.clock = t := by
  have hdivision : (t.second / 3600 * 60 + t.second / 60 % 60) * 60 + t.second % 60 = t.second := by
    omega
  have hnanosecond := h.nanosecond
  rw [Parts.clock, parts]
  by_cases hleap : 1000000000 ≤ t.nanosecond
  · have hlast : t.second % 60 = 59 := by omega
    have hsecond : t.second % 60 + 1 = 60 := by omega
    simp only [if_pos hleap, hsecond, if_true, Nat.sub_add_cancel hleap]
    rw [← hlast, hdivision]
  · have hsecond : ¬ t.second % 60 = 60 := by omega
    simp only [if_neg hleap, if_neg hsecond, Nat.add_zero, hdivision]

/-- **The text of a moment is read back as the moment.** -/
theorem parse_render {t : Timestamp} (h : t.IsMoment) : parse t.render = .ok t := by
  have hoffset : ¬ daySeconds ≤ (0 : Int).natAbs := by decide
  have hshift : t.parts.clock.shift (-t.parts.offset) = t := by
    rw [clock_parts h]
    exact shift_zero h.second
  rw [parse, readParts_render h]
  show t.parts.moment = .ok t
  rw [Parts.moment, hshift]
  simp only [parts, h.date, if_neg hoffset]
  rfl

end Timestamp

end LogFollow
