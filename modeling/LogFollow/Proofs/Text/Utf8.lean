import LogFollow.Text.Utf8
import Mathlib.Tactic.Common

/-!
# Texts and their UTF-8 bytes

The bytes of a text are those of its characters, one after another. The first scalar of them is the
first character, whatever the size of its form, so that reading the bytes gives the text back.
-/
namespace LogFollow

namespace Bytes

theorem toList_loop (bytes : ByteArray) (i : Nat) (done : Bytes) :
    ByteArray.toList.loop bytes i done = done.reverse ++ bytes.data.toList.drop i := by
  fun_induction ByteArray.toList.loop bytes i done with
  | case1 i done h ih =>
    have hi : i < bytes.data.toList.length := h
    rw [ih, List.drop_eq_getElem_cons hi, List.reverse_cons, List.append_assoc]
    have hget : bytes.get! i = bytes.data.toList[i] := by
      rw [ByteArray.get!, getElem!_pos bytes.data i h, Array.getElem_toList]
    rw [hget]
    rfl
  | case2 i done h =>
    rw [List.drop_of_length_le (Nat.not_lt.mp h), List.append_nil]

/-- The bytes of a text are those of its characters. -/
theorem ofString_eq (s : String) : ofString s = s.toList.flatMap String.utf8EncodeChar := by
  rw [ofString, ByteArray.toList, toList_loop, List.drop_zero, List.reverse_nil, List.nil_append,
    String.toUTF8, ← String.utf8Encode_toList, List.utf8Encode, List.toList_data_toByteArray]

end Bytes

namespace Text

theorem charOfCode_toNat (c : Char) : charOfCode c.toNat = c := by
  rw [charOfCode, if_pos (show c.toNat.isValidChar from c.valid), Char.ofNat_toNat]

theorem toNat_charOfCode {value : Nat} (h : value.isValidChar) : (charOfCode value).toNat = value := by
  rw [charOfCode, if_pos h, Char.ofNat, dif_pos h]
  rfl

namespace Utf8

theorem toNat_ofNat {n : Nat} (h : n < 256) : (UInt8.ofNat n).toNat = n := by
  rw [UInt8.toNat_ofNat', Nat.mod_eq_of_lt h]

theorem within_ofNat {n : Nat} (h : n < 256) (lo hi : UInt8) :
    within lo hi (.ofNat n) = (decide (lo.toNat ≤ n) && decide (n ≤ hi.toNat)) := by
  simp only [within, UInt8.le_iff_toNat_le, toNat_ofNat h]

/-- What a byte opens, by its number. -/
theorem lead_ofNat : ∀ n < 256, lead (.ofNat n) =
    if n < 0x80 then some .none
    else if n < 0xC2 then none
    else if n < 0xE0 then some (.some 0x80 0xBF 1 (n - 0xC0))
    else if n = 0xE0 then some (.some 0xA0 0xBF 2 0)
    else if n = 0xED then some (.some 0x80 0x9F 2 0xD)
    else if n < 0xF0 then some (.some 0x80 0xBF 2 (n - 0xE0))
    else if n = 0xF0 then some (.some 0x90 0xBF 3 0)
    else if n = 0xF4 then some (.some 0x80 0x8F 3 4)
    else if n < 0xF4 then some (.some 0x80 0xBF 3 (n - 0xF0))
    else none := by
  decide +kernel

/-- A byte of a sequence goes on with it. -/
theorem frontFrom_ofNat {n : Nat} (h : n < 256) {lo hi : UInt8} (hl : lo.toNat ≤ n)
    (hh : n ≤ hi.toNat) (value size missing : Nat) (rest : Bytes) :
    frontFrom lo hi value size (missing + 1) (.ofNat n :: rest) =
      frontFrom 0x80 0xBF (value * 64 + (n - 0x80)) (size + 1) missing rest := by
  have hw : within lo hi (.ofNat n) = true := by
    rw [within_ofNat h]
    simp [hl, hh]
  rw [frontFrom, if_pos hw, toNat_ofNat h]

/-- What opens a sequence of two bytes. -/
theorem lead_two {n : Nat} (h : 0xC2 ≤ n) (h' : n < 0xE0) :
    lead (.ofNat n) = some (.some 0x80 0xBF 1 (n - 0xC0)) := by
  rw [lead_ofNat n (by omega), if_neg (by omega), if_neg (by omega), if_pos h']

/-- What opens a sequence of three bytes; the next one must not make it overlong or a surrogate. -/
theorem lead_three {n : Nat} (h : 0xE0 ≤ n) (h' : n < 0xF0) :
    ∃ lo hi, lead (.ofNat n) = some (.some lo hi 2 (n - 0xE0)) ∧
      (∀ m, 0x80 ≤ m → (n = 0xE0 → 0xA0 ≤ m) → lo.toNat ≤ m) ∧
      ∀ m, m ≤ 0xBF → (n = 0xED → m ≤ 0x9F) → m ≤ hi.toNat := by
  rw [lead_ofNat n (by omega), if_neg (by omega), if_neg (by omega), if_neg (by omega)]
  by_cases h₀ : n = 0xE0
  · subst h₀
    exact ⟨_, _, rfl, fun m _ hm => hm rfl, fun m hm _ => hm⟩
  · by_cases hD : n = 0xED
    · subst hD
      exact ⟨_, _, rfl, fun m hm _ => hm, fun m _ hm => hm rfl⟩
    · rw [if_neg h₀, if_neg hD, if_pos h']
      exact ⟨_, _, rfl, fun m hm _ => hm, fun m hm _ => hm⟩

/-- What opens a sequence of four bytes; the next one must not make it overlong or too great. -/
theorem lead_four {n : Nat} (h : 0xF0 ≤ n) (h' : n < 0xF5) :
    ∃ lo hi, lead (.ofNat n) = some (.some lo hi 3 (n - 0xF0)) ∧
      (∀ m, 0x80 ≤ m → (n = 0xF0 → 0x90 ≤ m) → lo.toNat ≤ m) ∧
      ∀ m, m ≤ 0xBF → (n = 0xF4 → m ≤ 0x8F) → m ≤ hi.toNat := by
  rw [lead_ofNat n (by omega), if_neg (by omega), if_neg (by omega), if_neg (by omega),
    if_neg (by omega), if_neg (by omega), if_neg (by omega)]
  by_cases h₀ : n = 0xF0
  · subst h₀
    exact ⟨_, _, rfl, fun m _ hm => hm rfl, fun m hm _ => hm⟩
  · by_cases h₄ : n = 0xF4
    · subst h₄
      exact ⟨_, _, rfl, fun m hm _ => hm, fun m _ hm => hm rfl⟩
    · rw [if_neg h₀, if_neg h₄, if_pos (by omega)]
      exact ⟨_, _, rfl, fun m hm _ => hm, fun m hm _ => hm⟩

/-- A byte that ends a sequence. -/
theorem frontFrom_last {n : Nat} (h : n < 64) (value size : Nat) (rest : Bytes) :
    frontFrom 0x80 0xBF value size 1 (.ofNat (n + 128) :: rest) =
      .scalar (value * 64 + n) (size + 1) := by
  rw [frontFrom_ofNat (by omega) (by simp) (by simp; omega), frontFrom, Nat.add_sub_cancel]

/-- The first scalar of the bytes of a character and more is that character. -/
theorem front_utf8EncodeChar (c : Char) (rest : Bytes) :
    front (String.utf8EncodeChar c ++ rest) =
      .scalar c.toNat (String.utf8EncodeChar c).length := by
  have hv : c.val.toNat < 0xD800 ∨ 0xDFFF < c.val.toNat ∧ c.val.toNat < 0x110000 := c.valid
  rw [Char.toNat, String.utf8EncodeChar]
  generalize c.val.toNat = v at hv ⊢
  split
  · rw [List.singleton_append, front, lead_ofNat v (by omega), if_pos (by omega)]
    simp only [toNat_ofNat (show v < 256 by omega), List.length_singleton]
  · split
    · rw [List.cons_append, front, lead_two (by omega) (by omega)]
      simp only [List.singleton_append]
      rw [frontFrom_last (by omega)]
      simp only [List.length_cons, List.length_nil]
      congr 1
      omega
    · split
      · obtain ⟨lo, hi, hlead, hlo, hhi⟩ :=
          lead_three (n := v / 4096 % 16 + 224) (by omega) (by omega)
        rw [List.cons_append, front, hlead]
        simp only [List.cons_append, List.nil_append]
        rw [frontFrom_ofNat (by omega) (hlo _ (by omega) (by omega))
          (hhi _ (by omega) (by omega)), frontFrom_last (by omega)]
        simp only [List.length_cons, List.length_nil]
        congr 1
        omega
      · obtain ⟨lo, hi, hlead, hlo, hhi⟩ :=
          lead_four (n := v / 262144 % 8 + 240) (by omega) (by omega)
        rw [List.cons_append, front, hlead]
        simp only [List.cons_append, List.nil_append]
        rw [frontFrom_ofNat (by omega) (hlo _ (by omega) (by omega))
          (hhi _ (by omega) (by omega)), frontFrom_ofNat (by omega) (by simp) (by simp; omega),
          frontFrom_last (by omega)]
        simp only [List.length_cons, List.length_nil]
        congr 1
        omega

theorem length_utf8EncodeChar_pos (c : Char) : 0 < (String.utf8EncodeChar c).length := by
  rw [String.length_utf8EncodeChar]
  exact c.utf8Size_pos

/-- A byte of ASCII in the form of a character is the whole form. -/
theorem toNat_of_mem_utf8EncodeChar {c : Char} {b : UInt8} (hb : b ∈ String.utf8EncodeChar c)
    (h : b.toNat < 0x80) : c.toNat = b.toNat := by
  have hhigh (n : Nat) (hl : 0x80 ≤ n) (hg : n < 0x100) : b ≠ .ofNat n := by
    rintro rfl
    rw [toNat_ofNat hg] at h
    omega
  rw [String.utf8EncodeChar] at hb
  rw [Char.toNat]
  generalize c.val.toNat = v at hb ⊢
  split at hb
  · rw [List.mem_singleton.mp hb, toNat_ofNat (by omega)]
  · -- Every byte of a longer form lies above ASCII.
    exfalso
    repeat' split at hb
    all_goals simp only [List.mem_cons, List.not_mem_nil, or_false] at hb
    · rcases hb with hb | hb <;> exact hhigh _ (by omega) (by omega) hb
    · rcases hb with hb | hb | hb <;> exact hhigh _ (by omega) (by omega) hb
    · rcases hb with hb | hb | hb | hb <;> exact hhigh _ (by omega) (by omega) hb

/-- There are no more characters than bytes. -/
theorem length_le_length_flatMap (chars : List Char) :
    chars.length ≤ (chars.flatMap String.utf8EncodeChar).length := by
  induction chars with
  | nil => exact Nat.le_refl _
  | cons c chars ih =>
    have hpos := length_utf8EncodeChar_pos c
    rw [List.flatMap_cons, List.length_append, List.length_cons]
    omega

theorem readFrom_chars (chars : List Char) {fuel : Nat} (hf : chars.length < fuel) (place : Nat)
    (done : List Char) :
    readFrom place done fuel (chars.flatMap String.utf8EncodeChar) =
      .ok (done.reverse ++ chars) := by
  induction chars generalizing fuel place done with
  | nil =>
    obtain ⟨fuel, rfl⟩ := Nat.exists_eq_add_one_of_ne_zero (by omega : fuel ≠ 0)
    rw [List.flatMap_nil, readFrom, front, List.append_nil]
  | cons c chars ih =>
    obtain ⟨fuel, rfl⟩ := Nat.exists_eq_add_one_of_ne_zero (by omega : fuel ≠ 0)
    rw [List.flatMap_cons, readFrom, front_utf8EncodeChar]
    simp only [charOfCode_toNat, List.drop_left]
    rw [ih (by simpa using hf), List.reverse_cons, List.append_assoc, List.singleton_append]

/-- **Reading the bytes of a text gives the text back.** -/
theorem read_ofString (s : String) : read (Bytes.ofString s) = .ok s := by
  have hlen := length_le_length_flatMap s.toList
  rw [read, Bytes.ofString_eq, readFrom_chars s.toList (by omega), List.reverse_nil, List.nil_append]
  exact congrArg Except.ok s.ofList_toList

/-! ## What can be read -/

/-- What a byte that opens a longer sequence says of it. -/
theorem lead_eq_some {b lo hi : UInt8} {missing value : Nat}
    (h : lead b = some (.some lo hi missing value)) :
    0x80 ≤ lo.toNat ∧ hi.toNat ≤ 0xBF ∧
      (missing = 1 ∧ 0xC2 ≤ b.toNat ∧ b.toNat = 0xC0 + value ∧ value < 0x20 ∨
      missing = 2 ∧ b.toNat = 0xE0 + value ∧ value < 0x10 ∧ (value = 0 → 0xA0 ≤ lo.toNat) ∧
        (value = 0xD → hi.toNat ≤ 0x9F) ∨
      missing = 3 ∧ b.toNat = 0xF0 + value ∧ value < 5 ∧ (value = 0 → 0x90 ≤ lo.toNat) ∧
        (value = 4 → hi.toNat ≤ 0x8F)) := by
  have hb := b.toNat_lt
  rw [← UInt8.ofNat_toNat (x := b), lead_ofNat b.toNat hb] at h
  generalize b.toNat = n at h hb ⊢
  repeat' split at h
  all_goals
    simp only [Option.some.injEq, Pending.some.injEq, reduceCtorEq] at h
  all_goals
    obtain ⟨rfl, rfl, rfl, rfl⟩ := h
    refine ⟨by decide, by decide, ?_⟩
    simp
    omega

theorem lead_eq_none {b : UInt8} (h : lead b = some .none) : b.toNat < 0x80 := by
  have hb := b.toNat_lt
  rw [← UInt8.ofNat_toNat (x := b), lead_ofNat b.toNat hb] at h
  generalize b.toNat = n at h ⊢
  split at h
  · assumption
  · repeat' split at h
    all_goals cases h

theorem frontFrom_eq_scalar {lo hi : UInt8} {value size missing v n : Nat} {bytes : Bytes}
    (h : frontFrom lo hi value size (missing + 1) bytes = .scalar v n) :
    ∃ b rest, bytes = b :: rest ∧ lo.toNat ≤ b.toNat ∧ b.toNat ≤ hi.toNat ∧
      frontFrom 0x80 0xBF (value * 64 + (b.toNat - 0x80)) (size + 1) missing rest = .scalar v n := by
  cases bytes with
  | nil => cases h
  | cons b rest =>
    rw [frontFrom] at h
    split at h
    · next hw =>
      rw [within, Bool.and_eq_true, decide_eq_true_eq, decide_eq_true_eq, UInt8.le_iff_toNat_le,
        UInt8.le_iff_toNat_le] at hw
      exact ⟨b, rest, rfl, hw.1, hw.2, h⟩
    · cases h

theorem ofNat_eq {n : Nat} {b : UInt8} (h : n = b.toNat) : UInt8.ofNat n = b := by
  rw [h, UInt8.ofNat_toNat]

theorem utf8EncodeChar_charOfCode {value : Nat} (h : value.isValidChar) :
    String.utf8EncodeChar (charOfCode value) =
      if value ≤ 0x7F then [.ofNat value]
      else if value ≤ 0x7FF then [.ofNat (value / 64 % 32 + 192), .ofNat (value % 64 + 128)]
      else if value ≤ 0xFFFF then
        [.ofNat (value / 4096 % 16 + 224), .ofNat (value / 64 % 64 + 128), .ofNat (value % 64 + 128)]
      else
        [.ofNat (value / 262144 % 8 + 240), .ofNat (value / 4096 % 64 + 128),
          .ofNat (value / 64 % 64 + 128), .ofNat (value % 64 + 128)] := by
  have hv : (charOfCode value).val.toNat = value := toNat_charOfCode h
  rw [String.utf8EncodeChar]
  simp only [hv]

/-- The first scalar of some bytes stands there as the bytes of a character. -/
theorem eq_of_front {bytes : Bytes} {value size : Nat} (h : front bytes = .scalar value size) :
    bytes = String.utf8EncodeChar (charOfCode value) ++ bytes.drop size ∧ 0 < size := by
  cases bytes with
  | nil => cases h
  | cons b rest =>
    rw [front] at h
    split at h
    · next hl =>
      obtain ⟨rfl, rfl⟩ := Front.scalar.inj h
      have hb := lead_eq_none hl
      rw [utf8EncodeChar_charOfCode (.inl (by omega)), if_pos (by omega), UInt8.ofNat_toNat]
      exact ⟨rfl, Nat.one_pos⟩
    · next lo hi missing first hl =>
      obtain ⟨hlo, hhi, ⟨rfl, hb, hfirst, hlt⟩ | ⟨rfl, hfirst, hlt, hlow, hhigh⟩ |
        ⟨rfl, hfirst, hlt, hlow, hhigh⟩⟩ := lead_eq_some hl
      · obtain ⟨c, rest, rfl, hc, hc', h⟩ := frontFrom_eq_scalar h
        obtain ⟨rfl, rfl⟩ := Front.scalar.inj h
        rw [utf8EncodeChar_charOfCode (.inl (by omega)), if_neg (by omega), if_pos (by omega),
          ofNat_eq (b := b) (by omega), ofNat_eq (b := c) (by omega)]
        exact ⟨rfl, by omega⟩
      · obtain ⟨c, rest, rfl, hc, hc', h⟩ := frontFrom_eq_scalar h
        obtain ⟨d, rest, rfl, hd, hd', h⟩ := frontFrom_eq_scalar h
        obtain ⟨rfl, rfl⟩ := Front.scalar.inj h
        simp only [UInt8.reduceToNat] at hd hd'
        rw [utf8EncodeChar_charOfCode (by unfold Nat.isValidChar; omega), if_neg (by omega),
          if_neg (by omega), if_pos (by omega), ofNat_eq (b := b) (by omega),
          ofNat_eq (b := c) (by omega), ofNat_eq (b := d) (by omega)]
        exact ⟨rfl, by omega⟩
      · obtain ⟨c, rest, rfl, hc, hc', h⟩ := frontFrom_eq_scalar h
        obtain ⟨d, rest, rfl, hd, hd', h⟩ := frontFrom_eq_scalar h
        obtain ⟨e, rest, rfl, he, he', h⟩ := frontFrom_eq_scalar h
        obtain ⟨rfl, rfl⟩ := Front.scalar.inj h
        simp only [UInt8.reduceToNat] at hd hd' he he'
        rw [utf8EncodeChar_charOfCode (by unfold Nat.isValidChar; omega), if_neg (by omega),
          if_neg (by omega), if_neg (by omega), ofNat_eq (b := b) (by omega),
          ofNat_eq (b := c) (by omega), ofNat_eq (b := d) (by omega), ofNat_eq (b := e) (by omega)]
        exact ⟨rfl, by omega⟩
    · cases h

theorem frontFrom_ne_empty (lo hi : UInt8) (value size missing : Nat) (bytes : Bytes) :
    frontFrom lo hi value size missing bytes ≠ .empty := by
  fun_induction frontFrom lo hi value size missing bytes with
  | case1 => exact Front.noConfusion
  | case2 => exact Front.noConfusion
  | case3 _ _ _ _ _ _ _ _ ih => exact ih
  | case4 => exact Front.noConfusion

theorem eq_nil_of_front {bytes : Bytes} (h : front bytes = .empty) : bytes = [] := by
  cases bytes with
  | nil => rfl
  | cons b rest =>
    rw [front] at h
    split at h
    · cases h
    · exact absurd h (frontFrom_ne_empty _ _ _ _ _ _)
    · cases h

theorem eq_of_readFrom {bytes : Bytes} {fuel place : Nat} {done chars : List Char}
    (hf : bytes.length < fuel) (h : readFrom place done fuel bytes = .ok chars) :
    ∃ more, chars = done.reverse ++ more ∧ bytes = more.flatMap String.utf8EncodeChar := by
  induction fuel generalizing bytes place done with
  | zero => exact absurd hf (Nat.not_lt_zero _)
  | succ fuel ih =>
    rw [readFrom] at h
    cases hfront : front bytes with
    | empty =>
      simp only [hfront, Except.ok.injEq] at h
      exact ⟨[], by rw [h, List.append_nil], eq_nil_of_front hfront⟩
    | scalar value size =>
      obtain ⟨hbytes, hpos⟩ := eq_of_front hfront
      have hchar := length_utf8EncodeChar_pos (charOfCode value)
      have hlen := congrArg List.length hbytes
      rw [List.length_append] at hlen
      simp only [hfront] at h
      obtain ⟨more, hchars, hdrop⟩ := ih (by rw [List.length_drop]; omega) h
      refine ⟨charOfCode value :: more, ?_, ?_⟩
      · rw [hchars, List.reverse_cons, List.append_assoc, List.singleton_append]
      · rw [List.flatMap_cons, ← hdrop]
        exact hbytes
    | malformed | cut =>
      simp only [hfront] at h
      cases h

/-- Bytes that can be read are those of the text that is read. -/
theorem eq_ofString_of_read {bytes : Bytes} {s : String} (h : read bytes = .ok s) :
    bytes = Bytes.ofString s := by
  rw [read] at h
  cases hr : readFrom 0 [] (bytes.length + 1) bytes with
  | error fault =>
    rw [hr] at h
    cases h
  | ok chars =>
    rw [hr] at h
    obtain rfl := Except.ok.inj h
    obtain ⟨more, hchars, hbytes⟩ := eq_of_readFrom (Nat.lt_succ_self _) hr
    rw [List.reverse_nil, List.nil_append] at hchars
    rw [Bytes.ofString_eq, hchars, String.toList_ofList]
    exact hbytes

end Utf8

end Text

end LogFollow
