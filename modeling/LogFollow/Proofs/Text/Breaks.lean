import LogFollow.Proofs.Reader.Delivery
import LogFollow.Proofs.Text.LineWise
import LogFollow.Proofs.Text.Utf8
import Mathlib.Data.List.Forall2

/-!
# The lines of a file and of its text

UTF-8, UTF-16 and the character sets of single bytes decode line by line: the tables that say what a
newline looks like and what a byte stands for agree. So the tokens of a file have the texts that the
lines of its text are.
-/
namespace LogFollow

namespace Text

/-! ## Single bytes -/

/-- A decoder with a character for each byte, of which just one is a newline and one a carriage
return. -/
theorem byteWise_of_char {a : Automaton Unit} {char : UInt8 → Char}
    (hstep : ∀ s b, a.step s b = ([char b], ())) (hflush : ∀ s, a.flush s = [])
    (hnl : ∀ b, char b = '\n' ↔ b = 0x0A) (hcr : ∀ b, char b = '\r' ↔ b = 0x0D) :
    a.ByteWise fun _ => True where
  start := trivial
  empty := hflush _
  newline s _ := by rw [hstep, hflush, (hnl 0x0A).mpr rfl]; rfl
  carriageReturn s _ := by rw [hstep, hflush, (hcr 0x0D).mpr rfl]; rfl
  byte _ _ _ := trivial
  flush s _ := by rw [hflush]; exact List.not_mem_nil
  step s b _ hb := by
    rw [hstep, List.mem_singleton]
    exact fun h => hb ((hnl b).mp h.symm)
  last s b _ := by
    refine ⟨char b, ?_, fun hb h => hb ((hcr b).mp h)⟩
    rw [Automaton.read, Automaton.feed_singleton, hstep, hflush]
    rfl

theorem toNat_charOfNat {n : Nat} (h : n.isValidChar) : (Char.ofNat n).toNat = n := by
  rw [Char.ofNat, dif_pos h]
  rfl

theorem charOfCode_ne {n : Nat} {c : Char} (h : n ≠ c.toNat) (hc : c ≠ replacement) :
    charOfCode n ≠ c := by
  unfold charOfCode
  split
  · next hv =>
    rintro rfl
    exact h (toNat_charOfNat hv).symm
  · exact hc.symm

/-- The character of a number past ASCII ends no line. -/
theorem charOfCode_of_le {n : Nat} (h : 0x80 ≤ n) : charOfCode n ≠ '\n' ∧ charOfCode n ≠ '\r' :=
  ⟨charOfCode_ne (Nat.ne_of_gt (Nat.lt_of_lt_of_le (by decide) h)) (by decide),
    charOfCode_ne (Nat.ne_of_gt (Nat.lt_of_lt_of_le (by decide) h)) (by decide)⟩

/-- Below `0x80` a byte is the character of that number. -/
theorem ofNat_eq_iff : ∀ n < 0x80, (Char.ofNat n = '\n' ↔ n = 0x0A) ∧
    (Char.ofNat n = '\r' ↔ n = 0x0D) := by
  decide

theorem toNat_eq_iff (b c : UInt8) : b.toNat = c.toNat ↔ b = c :=
  ⟨UInt8.toNat.inj, congrArg UInt8.toNat⟩

/-- A decoder that keeps ASCII and has other characters for the bytes from `0x80` on. -/
theorem char_iff (char : UInt8 → Char) (hlow : ∀ b < 0x80, char b = Char.ofNat b.toNat)
    (hhigh : ∀ b, ¬ b < 0x80 → char b ≠ '\n' ∧ char b ≠ '\r') (b : UInt8) :
    (char b = '\n' ↔ b = 0x0A) ∧ (char b = '\r' ↔ b = 0x0D) := by
  by_cases h : b < 0x80
  · rw [hlow b h, ← toNat_eq_iff, ← toNat_eq_iff]
    exact ofNat_eq_iff _ (UInt8.lt_iff_toNat_lt.mp h)
  · obtain ⟨hn, hr⟩ := hhigh b h
    refine ⟨iff_of_false hn ?_, iff_of_false hr ?_⟩
    · rintro rfl
      exact h (by decide)
    · rintro rfl
      exact h (by decide)

/-- No table of single bytes has a line break. -/
theorem carriageReturn_notMem_upperHalf (set : SingleByte) : '\r' ∉ set.upperHalf.toList := by
  cases set <;>
    simp only [SingleByte.upperHalf, Table.ibm866, Table.iso2, Table.iso3, Table.iso4, Table.iso5,
      Table.iso6, Table.iso7, Table.iso8, Table.iso10, Table.iso13, Table.iso14, Table.iso15,
      Table.iso16, Table.koi8R, Table.koi8U, Table.macintosh, Table.windows874,
      Table.windows1250, Table.windows1251, Table.windows1252, Table.windows1253,
      Table.windows1254, Table.windows1255, Table.windows1256, Table.windows1257,
      Table.windows1258, Table.macCyrillic] <;>
    rw [String.toList_ofList] <;>
    decide +kernel

theorem ne_of_mem_cells {set : SingleByte} {c : Char} (h : c ∈ Table.cells set.upperHalf) :
    c ≠ '\n' ∧ c ≠ '\r' := by
  obtain ⟨hm, hb⟩ := List.mem_filter.mp h
  refine ⟨?_, ?_⟩
  · rintro rfl
    exact absurd hb (by decide)
  · rintro rfl
    exact carriageReturn_notMem_upperHalf set hm

theorem lineWise_singleByte (set : SingleByte) : (Charset.singleByte set).LineWise := by
  have hchar := char_iff (SingleByte.char (Table.cells set.upperHalf).toArray)
    (fun b hb => by rw [SingleByte.char, if_pos hb]) fun b hb => by
      rw [SingleByte.char, if_neg hb]
      cases hc : (Table.cells set.upperHalf).toArray[b.toNat - 0x80]? with
      | none => exact ⟨by decide, by decide⟩
      | some c => exact ne_of_mem_cells (by simpa using Array.mem_of_getElem? hc)
  exact ⟨Unit, set.automaton, _, (byteWise_of_char (fun _ _ => rfl) (fun _ => rfl)
    (fun b => (hchar b).1) (fun b => (hchar b).2)).lineWise rfl, fun _ => rfl⟩

theorem lineWise_userDefined : Charset.userDefined.LineWise := by
  have hchar := char_iff
    (fun b => if b < 0x80 then Char.ofNat b.toNat else charOfCode (0xF780 + (b.toNat - 0x80)))
    (fun b hb => if_pos hb) fun b hb => by
      simp only [if_neg hb]
      exact charOfCode_of_le (by omega)
  exact ⟨Unit, Charset.userDefinedAutomaton, _, (byteWise_of_char (fun _ _ => rfl) (fun _ => rfl)
    (fun b => (hchar b).1) (fun b => (hchar b).2)).lineWise rfl, fun _ => rfl⟩

/-! ## UTF-8 -/

namespace Utf8

/-- What is open between two bytes goes on with no byte of ASCII, and stands for no character of it. -/
def Open : Pending → Prop
  | .none => True
  | .some lo _ missing value =>
    0x80 ≤ lo.toNat ∧ 2 ≤ value * 64 + (lo.toNat - 0x80) ∧
      (missing ≤ 1 → 0x80 ≤ value * 64 + (lo.toNat - 0x80))

theorem lead_open {b : UInt8} {p : Pending} (h : lead b = some p) :
    Open p ∧ (p = .none → b.toNat < 0x80) := by
  have hb : b = .ofNat b.toNat := by simp
  rw [hb, lead_ofNat _ b.toNat_lt] at h
  generalize b.toNat = n at h
  split_ifs at h <;> obtain rfl := Option.some.inj h <;> simp [Open] <;> omega

/-- A step that completes the character of its byte or of an open sequence, or leaves a sequence open;
`front` stands for a sequence that the byte has broken. -/
inductive Steps (b : UInt8) : List Char × Pending → Prop
  | char (front : List Char) (c : Char) : '\n' ∉ front → (b ≠ 0x0A → c ≠ '\n') →
      (b ≠ 0x0D → c ≠ '\r') → Steps b (front ++ [c], .none)
  | opens (front : List Char) (p : Pending) : '\n' ∉ front → p ≠ .none → Open p →
      Steps b (front, p)

theorem steps_stepLead (b : UInt8) : Steps b (stepLead b) := by
  unfold stepLead
  split
  · next h =>
    have hb := (lead_open h).2 rfl
    refine .char [] _ List.not_mem_nil ?_ ?_ <;> intro hne <;>
      refine charOfCode_ne (fun h => hne ?_) (by decide)
    · exact UInt8.toNat.inj h
    · exact UInt8.toNat.inj h
  · next p hp h => exact .opens [] p List.not_mem_nil (by simpa using hp) (lead_open h).1
  · exact .char [] _ List.not_mem_nil (fun _ => by decide) (fun _ => by decide)

theorem steps_step {s : Pending} (hs : Open s) (b : UInt8) : Steps b (automaton.step s b) := by
  cases s with
  | none => exact steps_stepLead b
  | some lo hi missing value =>
    obtain ⟨hlo, htwo, hone⟩ := hs
    simp only [automaton]
    split
    · next hw =>
      have hb : lo.toNat ≤ b.toNat := by
        simp only [within, Bool.and_eq_true, decide_eq_true_eq, UInt8.le_iff_toNat_le] at hw
        exact hw.1
      split
      · next hm =>
        have hc := charOfCode_of_le (n := value * 64 + (b.toNat - 0x80)) (by have := hone hm; omega)
        exact .char [] _ List.not_mem_nil (fun _ => hc.1) (fun _ => hc.2)
      · refine .opens [] _ List.not_mem_nil (by simp) ⟨by decide, ?_, fun _ => ?_⟩
        · simp only [UInt8.reduceToNat]
          omega
        · simp only [UInt8.reduceToNat]
          omega
    · -- the byte breaks the sequence and is looked at afresh
      have hl := steps_stepLead b
      generalize stepLead b = r at hl
      cases hl with
      | char front c hf hn hr =>
        exact .char (replacement :: front) c (by simpa using ⟨by decide, hf⟩) hn hr
      | opens front p hf hp ho =>
        exact .opens (replacement :: front) p (by simpa using ⟨by decide, hf⟩) hp ho

/-- An open sequence becomes U+FFFD. -/
theorem flush_of_ne {p : Pending} (h : p ≠ .none) : automaton.flush p = [replacement] := by
  cases p with
  | none => exact absurd rfl h
  | some => rfl

/-- A byte of ASCII breaks what is open. -/
theorem step_ascii {s : Pending} (hs : Open s) {b : UInt8} (hb : b.toNat < 0x80) {c : Char}
    (hc : stepLead b = ([c], .none)) : automaton.step s b = (automaton.flush s ++ [c], .none) := by
  cases s with
  | none => exact hc
  | some lo hi missing value =>
    have hw : within lo hi b = false := by
      have hlo := hs.1
      simp only [within, Bool.and_eq_false_iff, decide_eq_false_iff_not, UInt8.le_iff_toNat_le]
      omega
    simp only [automaton, hw, hc, Bool.false_eq_true, if_false, List.singleton_append]

theorem byteWise : automaton.ByteWise Open where
  start := trivial
  empty := rfl
  newline _ hs := step_ascii hs (by decide) rfl
  carriageReturn _ hs := step_ascii hs (by decide) rfl
  byte s b hs := by
    have h := steps_step hs b
    generalize automaton.step s b = r at h
    cases h with
    | char => exact trivial
    | opens _ _ _ _ ho => exact ho
  flush s _ := by
    by_cases h : s = .none
    · rw [h]
      exact List.not_mem_nil
    · rw [flush_of_ne h]
      decide
  step s b hs hb := by
    have h := steps_step hs b
    generalize automaton.step s b = r at h
    cases h with
    | char front c hf hn _ =>
      exact List.not_mem_append hf (by simpa using (hn hb).symm)
    | opens _ _ hf => exact hf
  last s b hs := by
    have h := steps_step hs b
    rw [Automaton.read, Automaton.feed_singleton]
    generalize automaton.step s b = r at h
    cases h with
    | char front c _ _ hr => exact ⟨c, by simp [automaton], hr⟩
    | opens front p _ hp _ =>
      rw [flush_of_ne hp]
      exact ⟨replacement, by simp, fun _ => by decide⟩

end Utf8

theorem lineWise_utf8 : Charset.utf8.LineWise :=
  ⟨_, Utf8.automaton, _, Utf8.byteWise.lineWise rfl, fun _ => rfl⟩

/-! ## UTF-16 -/

namespace Utf16

/-- Between two code units no byte is open. -/
def Open (s : Pending) : Prop := s.byte = none

/-- A code unit behind what is open. -/
def meet (surrogate : Option Nat) (unit : Nat) : List Char × Pending :=
  match surrogate with
  | none => stepUnit unit
  | some high =>
    if 0xDC00 ≤ unit ∧ unit ≤ 0xDFFF then
      ([charOfCode (0x10000 + (high - 0xD800) * 0x400 + (unit - 0xDC00))], {})
    else (replacement :: (stepUnit unit).1, (stepUnit unit).2)

theorem feed_unit (order : ByteOrder) {s : Pending} (hs : Open s) (x y : UInt8) :
    (automaton order).feed s [x, y] = meet s.surrogate (order.unit x y) := by
  obtain ⟨surrogate, byte⟩ := s
  obtain rfl : byte = none := hs
  cases surrogate with
  | none => simp [Automaton.feed, automaton, meet]
  | some high =>
    simp only [Automaton.feed, automaton, meet]
    split <;> simp

/-- A code unit completes a character, its own or that of a pair, or it is a leading surrogate; `front`
stands for one that has not found its partner. -/
inductive Meets (unit : Nat) : List Char × Pending → Prop
  | char (front : List Char) (c : Char) : '\n' ∉ front → (unit ≠ 0x0A → c ≠ '\n') →
      (unit ≠ 0x0D → c ≠ '\r') → Meets unit (front ++ [c], {})
  | opens (front : List Char) (high : Nat) : '\n' ∉ front →
      Meets unit (front, { surrogate := some high })

theorem meets_stepUnit (unit : Nat) : Meets unit (stepUnit unit) := by
  unfold stepUnit
  split
  · exact .opens [] unit List.not_mem_nil
  · split
    · exact .char [] _ List.not_mem_nil (fun _ => by decide) (fun _ => by decide)
    · exact .char [] _ List.not_mem_nil (fun h => charOfCode_ne h (by decide))
        (fun h => charOfCode_ne h (by decide))

theorem meets_meet (surrogate : Option Nat) (unit : Nat) : Meets unit (meet surrogate unit) := by
  have hu := meets_stepUnit unit
  unfold meet
  split
  · exact hu
  · split
    · have hc (high : Nat) :=
        charOfCode_of_le (n := 0x10000 + (high - 0xD800) * 0x400 + (unit - 0xDC00)) (by omega)
      exact .char [] _ List.not_mem_nil (fun _ => (hc _).1) (fun _ => (hc _).2)
    · generalize stepUnit unit = r at hu
      have hfront {front : List Char} (h : '\n' ∉ front) : '\n' ∉ replacement :: front :=
        List.not_mem_cons_of_ne_of_not_mem (by decide) h
      cases hu with
      | char front c hf hn hr => exact .char (replacement :: front) c (hfront hf) hn hr
      | opens front high hf => exact .opens (replacement :: front) high (hfront hf)

/-- A code unit of ASCII ends what is open. -/
theorem meet_ascii {s : Pending} (order : ByteOrder) (hs : Open s) {unit : Nat} {c : Char}
    (hu : unit < 0x80) (hc : stepUnit unit = ([c], {})) :
    meet s.surrogate unit = ((automaton order).flush s ++ [c], (automaton order).start) := by
  obtain ⟨surrogate, byte⟩ := s
  obtain rfl : byte = none := hs
  cases surrogate with
  | none => exact hc
  | some high =>
    simp only [meet]
    rw [if_neg (by omega), hc]
    rfl

theorem newline_notMem_flush (order : ByteOrder) (s : Pending) : '\n' ∉ (automaton order).flush s := by
  simp only [automaton]
  split <;> decide

theorem read_byte (order : ByteOrder) {s : Pending} (hs : Open s) (x : UInt8) :
    (automaton order).read s [x] = [replacement] := by
  obtain ⟨surrogate, byte⟩ := s
  obtain rfl : byte = none := hs
  simp [Automaton.read, Automaton.feed, automaton]

theorem read_unit (order : ByteOrder) {s : Pending} (hs : Open s) (x y : UInt8) :
    ∃ r, Meets (order.unit x y) r ∧
      (automaton order).read s [x, y] = r.1 ++ (automaton order).flush r.2 :=
  ⟨_, meets_meet s.surrogate (order.unit x y), by rw [Automaton.read, feed_unit order hs]⟩

/-- A part of a code unit, or all of one. -/
theorem eq_nil_or_byte_or_unit {part : Bytes} (h : part.length ≤ 2) :
    part = [] ∨ (∃ x, part = [x]) ∨ ∃ x y, part = [x, y] := by
  match part, h with
  | [], _ => exact .inl rfl
  | [x], _ => exact .inr (.inl ⟨x, rfl⟩)
  | [x, y], _ => exact .inr (.inr ⟨x, y, rfl⟩)

section Ordered

-- the bytes of the encoding are in this order
variable {order : ByteOrder} {e : Encoding} (hw : e.codeUnit = 2)
  (ho : ∀ c x y, [x, y] = e.ascii c ↔ order.unit x y = c.toNat)
include hw ho

theorem feed_ascii {s : Pending} (hs : Open s) {b : UInt8} {c : Char} (hb : b.toNat < 0x80)
    (hc : stepUnit b.toNat = ([c], {})) :
    (automaton order).feed s (e.ascii b) =
      ((automaton order).flush s ++ [c], (automaton order).start) := by
  have hl := e.length_ascii b
  rw [hw] at hl
  obtain ⟨x, y, hxy⟩ := List.length_eq_two.mp hl
  rw [hxy, feed_unit order hs, (ho b x y).mp hxy.symm]
  exact meet_ascii order hs hb hc

theorem lineWise : (automaton order).LineWise e Open where
  start := rfl
  empty := rfl
  newline s hs := feed_ascii hw ho hs (by decide) rfl
  carriageReturn s hs := feed_ascii hw ho hs (by decide) rfl
  unit s unit hs hl := by
    obtain ⟨x, y, rfl⟩ := List.length_eq_two.mp (hl.trans hw)
    have hm := meets_meet s.surrogate (order.unit x y)
    rw [feed_unit order hs]
    generalize meet s.surrogate (order.unit x y) = r at hm
    cases hm <;> rfl
  part s part hs hp hne := by
    rcases eq_nil_or_byte_or_unit (hw ▸ hp) with rfl | ⟨x, rfl⟩ | ⟨x, y, rfl⟩
    · exact newline_notMem_flush order s
    · rw [read_byte order hs]
      decide
    · obtain ⟨r, hm, hread⟩ := read_unit order hs x y
      rw [hread]
      refine List.not_mem_append ?_ (newline_notMem_flush order _)
      cases hm with
      | char front c hf hn _ =>
        have hc := hn fun hu => hne ((ho 0x0A x y).mpr hu)
        exact List.not_mem_append hf (by simpa using hc.symm)
      | opens front high hf => exact hf
  last s part hs hne hp := by
    rcases eq_nil_or_byte_or_unit (hw ▸ hp) with rfl | ⟨x, rfl⟩ | ⟨x, y, rfl⟩
    · exact absurd rfl hne
    · rw [read_byte order hs]
      exact ⟨replacement, rfl, fun _ => by decide⟩
    · obtain ⟨r, hm, hread⟩ := read_unit order hs x y
      rw [hread]
      cases hm with
      | char front c _ _ hr =>
        refine ⟨c, by simp [automaton], fun h => hr fun hu => h ((ho 0x0D x y).mpr hu)⟩
      | opens front high _ => exact ⟨replacement, by simp [automaton], fun _ => by decide⟩

end Ordered

end Utf16

theorem lineWise_utf16le : Charset.utf16le.LineWise := by
  refine ⟨_, Utf16.automaton .little, _, Utf16.lineWise rfl fun c x y => ?_, fun _ => rfl⟩
  have hx := x.toNat_lt
  have hc := c.toNat_lt
  change [x, y] = [c, 0] ↔ y.toNat * 256 + x.toNat = c.toNat
  rw [List.cons_eq_cons, List.cons_eq_cons, ← toNat_eq_iff, ← toNat_eq_iff]
  simp only [and_true, UInt8.reduceToNat]
  omega

theorem lineWise_utf16be : Charset.utf16be.LineWise := by
  refine ⟨_, Utf16.automaton .big, _, Utf16.lineWise rfl fun c x y => ?_, fun _ => rfl⟩
  have hy := y.toNat_lt
  have hc := c.toNat_lt
  change [x, y] = [0, c] ↔ x.toNat * 256 + y.toNat = c.toNat
  rw [List.cons_eq_cons, List.cons_eq_cons, ← toNat_eq_iff, ← toNat_eq_iff]
  simp only [and_true, UInt8.reduceToNat]
  omega

/-! ## Files -/

/-- UTF-8, UTF-16 and the sets of single bytes. -/
def Charset.isUnitwise : Charset → Bool
  | .utf8 | .utf16le | .utf16be | .singleByte _ | .userDefined => true
  | .gbk | .gb18030 | .big5 | .eucJp | .iso2022Jp | .shiftJis | .eucKr | .replacement => false

theorem lineWise_of_isUnitwise {set : Charset} (h : set.isUnitwise) : set.LineWise := by
  cases set with
  | utf8 => exact lineWise_utf8
  | utf16le => exact lineWise_utf16le
  | utf16be => exact lineWise_utf16be
  | singleByte set => exact lineWise_singleByte set
  | userDefined => exact lineWise_userDefined
  | _ => cases h

end Text

theorem Decoder.decodeAll_eq (d : Decoder) (tokens : List Bytes) :
    d.decodeAll tokens = tokens.map d.encoding.body := by
  induction tokens generalizing d with
  | nil => rfl
  | cons token rest ih =>
    obtain ⟨hb, he⟩ := d.decode_eq token
    change (d.decode token).1 :: (d.decode token).2.decodeAll rest = _
    rw [ih, hb, he, List.map_cons]

namespace Text

/-- **Cutting bytes into lines and decoding them is decoding the bytes and cutting the text.** The tokens
of a byte string, and what is left of it, have the texts that the text of the whole byte string has for
lines; and a token is empty just where its line is. -/
theorem decodeAll_split {set : Charset} (hs : set.isUnitwise) {d : Decoder}
    (hd : d.encoding = .charset set) (complete : Bool) (data : Bytes) :
    let cut := d.encoding.lines.split complete data
    let text := set.decode data
    (d.decode data).1 = .text text ∧
      d.decodeAll (cut.1 ++ [cut.2]) =
        (lines text.toList).map (fun line => .text (String.ofList line)) ∧
      List.Forall₂ (fun token line => token = [] ↔ line = []) (cut.1 ++ [cut.2])
        (lines text.toList) := by
  intro cut text
  obtain ⟨σ, a, between, hl, hr⟩ := lineWise_of_isUnitwise hs
  have hcut : cut = ((d.encoding.whole data).map d.encoding.trim, d.encoding.tail data) :=
    d.encoding.split_lines complete data
  have hlines := hl.map_run_lines data
  have htext : text.toList = a.run data := by
    rw [← hr]
    exact String.toList_ofList
  rw [hcut, htext, ← hlines, hd]
  refine ⟨?_, ?_, ?_⟩
  · rw [(d.decode_eq data).1, hd]
    rfl
  · rw [d.decodeAll_eq, hd, List.map_map]
    refine List.map_congr_left fun token _ => ?_
    exact congrArg (fun chars => Body.text (String.ofList chars)) (hr token)
  · rw [List.forall₂_map_right_iff, List.forall₂_same]
    exact fun token _ => (hl.run_eq_nil_iff token).symm

/-- A surrogate without a partner in front of a carriage return and a newline, and an odd byte. -/
def broken : Bytes := [0xD8, 0x00, 0x00, 0x0D, 0x00, 0x0A, 0x00, 0x0D, 0x00, 0x0A, 0x00]

theorem decodeAll_split_broken :
    Charset.utf16be.isUnitwise ∧
      (Encoding.charset .utf16be).lines.split true broken = ([[0xD8, 0x00], []], [0x00]) ∧
      (Decoder.new (.charset .utf16be)).decodeAll [[0xD8, 0x00], [], [0x00]] =
        [.text "\uFFFD", .text "", .text "\uFFFD"] := by
  have hsplit : (Encoding.charset .utf16be).lines.split true broken =
      ([[0xD8, 0x00], []], [0x00]) := by decide +kernel
  have h := @decodeAll_split .utf16be rfl (.new (.charset .utf16be)) rfl true broken
  simp only [Decoder.new] at h
  rw [hsplit] at h
  exact ⟨rfl, hsplit, h.2.1.trans (by decide +kernel)⟩

end Text

end LogFollow
