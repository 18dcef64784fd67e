import LogFollow.Json.Reads
import LogFollow.Json.Write
import Mathlib.Tactic.Common

/-!
# Numbers and their digits

A whole number is written as its digits, without zeros at the front. They are a run that goes on as
long as a digit follows, and the value of the run is the number again. So a number is read back if
what stands behind it does not go on with it.
-/
namespace LogFollow.Json

/-! ## Runs of digits -/

theorem isDigit_eq (c : Char) : isDigit c = c.isDigit := by
  rw [isDigit, Char.isDigit]
  rfl

theorem toNat_of_isDigit {c : Char} (h : isDigit c = true) : 48 ≤ c.toNat ∧ c.toNat ≤ 57 := by
  simp only [isDigit, Bool.and_eq_true, decide_eq_true_eq, Char.le_def, UInt32.le_iff_toNat_le] at h
  exact h

/-- The text does not go on with a digit. -/
def NoDigit (text : List Char) : Prop := ∀ c ∈ text.head?, isDigit c = false

theorem NoDigit.cons {c : Char} (h : isDigit c = false) (rest : List Char) : NoDigit (c :: rest) := by
  simpa [NoDigit] using h

theorem takeWhile_digits {digits rest : List Char} (hd : ∀ c ∈ digits, isDigit c = true)
    (hr : NoDigit rest) : (digits ++ rest).takeWhile isDigit = digits := by
  rw [List.takeWhile_append_of_pos hd]
  cases rest with
  | nil => exact List.append_nil _
  | cons c rest => rw [List.takeWhile_cons_of_neg (by simp [hr c rfl]), List.append_nil]

theorem dropWhile_digits {digits rest : List Char} (hd : ∀ c ∈ digits, isDigit c = true)
    (hr : NoDigit rest) : (digits ++ rest).dropWhile isDigit = rest := by
  rw [List.dropWhile_append_of_pos hd]
  cases rest with
  | nil => rfl
  | cons c rest => rw [List.dropWhile_cons_of_neg (by simp [hr c rfl])]

/-- The value of digits is worked out from the first one on. -/
theorem foldl_digits (digits : List Char) (n : Nat) :
    digits.foldl (fun n c => n * 10 + digitValue c) n = Nat.ofDigitChars 10 digits n := by
  rw [Nat.ofDigitChars]
  simp only [digitValue, Nat.mul_comm]
  rfl

/-! ## The digits of a number -/

theorem isDigit_of_mem_writeNat {n : Nat} {c : Char} (h : c ∈ writeNat n) : isDigit c = true := by
  rw [isDigit_eq]
  exact Nat.isDigit_of_mem_toDigits (by decide) (by decide) h

theorem writeNat_ne_nil (n : Nat) : writeNat n ≠ [] := Nat.toDigits_ne_nil

theorem exists_writeNat (n : Nat) : ∃ c digits, writeNat n = c :: digits ∧ isDigit c = true := by
  obtain ⟨c, digits, hw⟩ := List.exists_cons_of_ne_nil (writeNat_ne_nil n)
  have hmem : c ∈ writeNat n := by
    rw [hw]
    exact List.mem_cons_self
  exact ⟨c, digits, hw, isDigit_of_mem_writeNat hmem⟩

theorem foldl_writeNat (n : Nat) :
    (writeNat n).foldl (fun n c => n * 10 + digitValue c) 0 = n := by
  rw [foldl_digits]
  exact Nat.ofDigitChars_ten_toDigits

/-- The first digit of a number is a zero only if the number is. -/
theorem head?_writeNat {n : Nat} (h : 0 < n) : (writeNat n).head? ≠ some '0' := by
  induction n using Nat.strongRecOn with
  | ind n ih =>
    rw [writeNat, Nat.toDigits_eq_if (by decide)]
    split
    · simp only [List.head?_cons, ne_eq, Option.some.injEq, Nat.digitChar_eq_zero]
      omega
    · have hrest := ih (n / 10) (by omega) (by omega)
      cases hw : Nat.toDigits 10 (n / 10) with
      | nil => exact absurd hw Nat.toDigits_ne_nil
      | cons c digits =>
        rw [writeNat, hw] at hrest
        exact hrest

/-! ## Reading numbers -/

theorem le_foldl_digits (digits : List Char) (n : Nat) :
    n ≤ digits.foldl (fun n c => n * 10 + digitValue c) n := by
  induction digits generalizing n with
  | nil => exact Nat.le_refl _
  | cons c digits ih =>
    have hrest := ih (n * 10 + digitValue c)
    rw [List.foldl_cons]
    omega

/-- All digits of a number that fits are added up. -/
theorem addDigits_of_le (digits : List Char) {n : Nat} (count : Nat)
    (h : digits.foldl (fun n c => n * 10 + digitValue c) n ≤ maxWord) :
    addDigits n count digits =
      (digits.foldl (fun n c => n * 10 + digitValue c) n, count + digits.length) := by
  induction digits generalizing n count with
  | nil => rfl
  | cons c digits ih =>
    rw [List.foldl_cons] at h
    have hnext := le_foldl_digits digits (n * 10 + digitValue c)
    rw [addDigits, if_neg (by omega), ih (count + 1) h, List.foldl_cons, List.length_cons]
    congr 1
    omega

/-- What may stand behind a whole number: the end of the text, or a mark that does not go on with
the number. -/
def EndsNumber (rest : List Char) : Prop :=
  NoDigit rest ∧ ∀ c ∈ rest.head?, c ≠ '.' ∧ c ≠ 'e' ∧ c ≠ 'E'

theorem readNumberTail_of_ends {rest : List Char} (h : EndsNumber rest) (n : Nat) :
    readNumberTail false n rest = .ok (.unsigned n, rest) := by
  unfold readNumberTail
  split
  · exact absurd rfl (h.2 '.' rfl).1
  · exact absurd rfl (h.2 'e' rfl).2.1
  · exact absurd rfl (h.2 'E' rfl).2.2
  · rfl

theorem readMagnitude_writeNat {n : Nat} (hn : n ≤ maxWord) {rest : List Char}
    (hr : EndsNumber rest) : readMagnitude false (writeNat n ++ rest) = .ok (.unsigned n, rest) := by
  have hdigits : ∀ c ∈ writeNat n, isDigit c = true := fun c => isDigit_of_mem_writeNat
  rcases Nat.eq_zero_or_pos n with rfl | hpos
  · have hzero : writeNat 0 = ['0'] := rfl
    rw [hzero, List.singleton_append]
    unfold readMagnitude
    simp only [if_pos]
    split
    · next d tail => rw [if_neg (by simp [hr.1 d rfl]), readNumberTail_of_ends hr]
    · exact readNumberTail_of_ends hr 0
  · have hfirst := head?_writeNat hpos
    have htake := takeWhile_digits hdigits hr.1
    have hdrop := dropWhile_digits hdigits hr.1
    have hadd := addDigits_of_le (writeNat n) (n := 0) 0 (by rwa [foldl_writeNat])
    rw [foldl_writeNat, Nat.zero_add] at hadd
    obtain ⟨c, digits, hw, hc⟩ := exists_writeNat n
    rw [hw] at hfirst hadd htake hdrop
    have hzero : c ≠ '0' := by simpa using hfirst
    rw [List.cons_append] at htake hdrop
    rw [hw, List.cons_append]
    unfold readMagnitude
    simp only [if_neg hzero, if_pos hc, htake, hdrop, hadd, if_pos]
    exact readNumberTail_of_ends hr n

/-- **A number that fits into 64 bits is read back.** -/
theorem readNumber_writeNat {n : Nat} (hn : n ≤ maxWord) {rest : List Char}
    (hr : EndsNumber rest) : readNumber (writeNat n ++ rest) = .ok (.unsigned n, rest) := by
  have hread := readMagnitude_writeNat hn hr
  obtain ⟨c, digits, hw, hc⟩ := exists_writeNat n
  rw [hw, List.cons_append] at hread ⊢
  unfold readNumber
  split
  · next heq =>
    -- A sign is no digit.
    rw [(List.cons.inj heq).1] at hc
    exact absurd hc (by decide)
  · exact hread

end LogFollow.Json
