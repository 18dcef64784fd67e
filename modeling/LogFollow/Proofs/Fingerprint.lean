import LogFollow.Fingerprint
import Mathlib.Tactic.Common

/-!
# Which files have matching fingerprints

Two fingerprints match when one of them is a beginning of the other. Taken of two files, each with a limit
of its own, they match just if both files have bytes and the files agree as far as both fingerprints go. So
a file is recognised when it has grown, and what stands behind the smaller limit does not count.
-/
namespace LogFollow

/-- Neither fingerprint is empty, and one is a beginning of the other. -/
def Fingerprint.Alike (f g : Fingerprint) : Prop :=
  f.bytes ≠ [] ∧ g.bytes ≠ [] ∧ (f.bytes <+: g.bytes ∨ g.bytes <+: f.bytes)

/-- The first `n` bytes of two byte strings are the same. -/
def Bytes.Agree (n : Nat) (a b : Bytes) : Prop := a.take n = b.take n

instance (n : Nat) (a b : Bytes) : Decidable (Bytes.Agree n a b) :=
  inferInstanceAs (Decidable (a.take n = b.take n))

namespace Bytes

theorem Agree.symm {n : Nat} {a b : Bytes} (h : Agree n a b) : Agree n b a := Eq.symm h

/-- What stands behind the first `n` bytes does not count. -/
theorem agree_append_left {n : Nat} {a : Bytes} (h : n ≤ a.length) (more b : Bytes) :
    Agree n (a ++ more) b ↔ Agree n a b := by
  rw [Agree, Agree, List.take_append_of_le_length h]

theorem agree_take {k n m : Nat} (hn : k ≤ n) (hm : k ≤ m) (a b : Bytes) :
    Agree k (a.take n) (b.take m) ↔ Agree k a b := by
  rw [Agree, Agree, List.take_take, List.take_take, Nat.min_eq_left hn, Nat.min_eq_left hm]

/-- One of two byte strings is a beginning of the other just if they agree as far as both go. -/
theorem prefix_or_prefix_iff (a b : Bytes) :
    a <+: b ∨ b <+: a ↔ Agree (min a.length b.length) a b := by
  have hshorter : ∀ {a b : Bytes}, a.length ≤ b.length →
      (a <+: b ∨ b <+: a ↔ Agree a.length a b) := by
    intro a b hle
    rw [Agree, List.take_length, ← List.prefix_iff_eq_take]
    refine ⟨fun h => h.elim id fun hb => ?_, .inl⟩
    exact hb.eq_of_length_le hle ▸ List.prefix_rfl
  rcases Nat.le_total a.length b.length with hle | hle
  · rw [Nat.min_eq_left hle]
    exact hshorter hle
  · rw [Nat.min_eq_right hle, or_comm, hshorter hle]
    exact ⟨Agree.symm, Agree.symm⟩

end Bytes

namespace Fingerprint

variable {limit n m : Nat} {content : Bytes}

theorem matchesWith_iff (f g : Fingerprint) : f.matchesWith g = true ↔ f.Alike g := by
  obtain ⟨b⟩ := f
  obtain ⟨c⟩ := g
  simp only [matchesWith, startsWith, isEmpty, Alike, Bool.or_eq_true, Bool.and_eq_true,
    Bool.not_eq_true', List.isEmpty_eq_false_iff, List.isPrefixOf_iff_prefix]
  constructor
  · rintro (⟨hc, h⟩ | ⟨hb, h⟩)
    · refine ⟨?_, hc, .inr h⟩
      rintro rfl
      exact hc (List.prefix_nil.mp h)
    · refine ⟨hb, ?_, .inl h⟩
      rintro rfl
      exact hb (List.prefix_nil.mp h)
  · rintro ⟨hb, hc, h | h⟩
    · exact .inr ⟨hb, h⟩
    · exact .inl ⟨hc, h⟩

theorem matchesWith_comm (f g : Fingerprint) : f.matchesWith g = g.matchesWith f := by
  rw [matchesWith, matchesWith, Bool.or_comm]

theorem matchesWith_of_isEmpty {f : Fingerprint} (h : f.isEmpty = true) (g : Fingerprint) :
    f.matchesWith g = false := by
  rw [← Bool.not_eq_true, matchesWith_iff]
  exact fun halike => halike.1 (List.isEmpty_iff.mp h)

theorem size_pos_of_matchesWith {f g : Fingerprint} (h : f.matchesWith g = true) :
    0 < f.size ∧ 0 < g.size := by
  obtain ⟨hf, hg, -⟩ := (matchesWith_iff f g).mp h
  exact ⟨List.length_pos_iff.mpr hf, List.length_pos_iff.mpr hg⟩

/-! ## Fingerprints of contents -/

/-- The first bytes of a file are taken up to its end, whatever the limit. -/
theorem ofContent_eq (limit : Nat) (content : Bytes) :
    ofContent limit content = ⟨content.take (min content.length limit)⟩ := by
  rw [ofContent, List.take_eq_take_min, Nat.min_comm]

theorem size_ofContent_nil (limit : Nat) : (ofContent limit []).size = 0 := by
  rw [size, ofContent, List.take_nil, List.length_nil]

theorem size_ofContent_le (limit : Nat) (content more : Bytes) :
    (ofContent limit content).size ≤ (ofContent limit (content ++ more)).size := by
  rw [size, size, ofContent, ofContent, List.length_take, List.length_take, List.length_append]
  omega

theorem isEmpty_ofContent (hl : 0 < limit) (content : Bytes) :
    (ofContent limit content).isEmpty = content.isEmpty := by
  cases content with
  | nil => simp [ofContent, isEmpty]
  | cons b rest =>
    obtain ⟨n, rfl⟩ := Nat.exists_eq_add_one_of_ne_zero (by omega : limit ≠ 0)
    rfl

/-- Fingerprints of two files are alike just if both files have bytes and agree as far as both of the
fingerprints go. -/
theorem alike_ofContent_iff (hn : 0 < n) (hm : 0 < m) (a b : Bytes) :
    (ofContent n a).Alike (ofContent m b) ↔
      a ≠ [] ∧ b ≠ [] ∧ Bytes.Agree (min (min a.length b.length) (min n m)) a b := by
  have hne : ∀ {k : Nat} {c : Bytes}, 0 < k → (c.take k ≠ [] ↔ c ≠ []) := by
    intro k c hk
    rw [ne_eq, List.take_eq_nil_iff, not_or]
    exact and_iff_right (Nat.ne_of_gt hk)
  have hlength : min (a.take n).length (b.take m).length = min (min a.length b.length) (min n m) := by
    rw [List.length_take, List.length_take]
    omega
  rw [Alike, ofContent, ofContent, hne hn, hne hm, Bytes.prefix_or_prefix_iff, hlength,
    Bytes.agree_take (by omega) (by omega)]

/-- The first bytes of a file match those of the file when it has grown. -/
theorem ofContent_matchesWith_append (hn : 0 < n) (hm : 0 < m) (hc : content ≠ [])
    (more : Bytes) : (ofContent n content).matchesWith (ofContent m (content ++ more)) = true := by
  rw [matchesWith_iff, alike_ofContent_iff hn hm]
  refine ⟨hc, by simp [hc], ?_⟩
  rw [Bytes.Agree, List.take_append_of_le_length]
  omega

theorem ofContent_matchesWith_self (hl : 0 < limit) (hc : content ≠ []) :
    (ofContent limit content).matchesWith (ofContent limit content) = true := by
  have h := ofContent_matchesWith_append hl hl hc []
  rwa [List.append_nil] at h

/-- What is appended to a file behind the smaller limit does not count. -/
theorem ofContent_append_matchesWith (hn : 0 < n) (hm : 0 < m) {a : Bytes}
    (ha : min n m ≤ a.length) (more b : Bytes) :
    (ofContent n (a ++ more)).matchesWith (ofContent m b) =
      (ofContent n a).matchesWith (ofContent m b) := by
  have hne : a ≠ [] := List.length_pos_iff.mp (by omega)
  have hlength : min (min (a ++ more).length b.length) (min n m) =
      min (min a.length b.length) (min n m) := by
    rw [List.length_append]
    omega
  rw [Bool.eq_iff_iff, matchesWith_iff, matchesWith_iff, alike_ofContent_iff hn hm,
    alike_ofContent_iff hn hm, hlength, Bytes.agree_append_left (by omega)]
  exact and_congr_left fun _ => iff_of_true (by simp [hne]) hne

/-- Taking the fingerprint of an open file gives its first bytes, wherever the cursor stands, and leaves
the file as it was. -/
theorem capture_eq (file : FileHandle) (limit : Nat) :
    capture file limit = (ofContent limit file.content, file) := rfl

/-- **Fingerprints match just if the contents agree.** Taken of two files, each with a limit of its own,
they match if both files have bytes and agree up to the end of the shorter one or up to the smaller limit.
The order does not matter, a file matches whatever it has grown to, and what either file has grown by
behind the smaller limit does not count. The open file is left as it was, with its cursor, which may stand
past the end. -/
theorem captures_match_iff_agree (hn : 0 < n) (hm : 0 < m) (f g : FileHandle) :
    ((capture f n).1.matchesWith (capture g m).1 = true ↔
      f.content ≠ [] ∧ g.content ≠ [] ∧
        Bytes.Agree (min (min f.content.length g.content.length) (min n m)) f.content g.content) ∧
    (capture f n).1.matchesWith (capture g m).1 = (capture g m).1.matchesWith (capture f n).1 ∧
    (∀ grown : FileHandle, f.content ≠ [] → f.content <+: grown.content →
      (capture f n).1.matchesWith (capture grown m).1 = true) ∧
    (∀ grown : FileHandle, f.content <+: grown.content → min n m ≤ f.content.length →
      (capture grown n).1.matchesWith (capture g m).1 =
        (capture f n).1.matchesWith (capture g m).1) ∧
    (∀ grown : FileHandle, g.content <+: grown.content → min n m ≤ g.content.length →
      (capture f n).1.matchesWith (capture grown m).1 =
        (capture f n).1.matchesWith (capture g m).1) ∧
    (capture f n).2 = f := by
  simp only [capture_eq]
  refine ⟨?_, matchesWith_comm _ _, ?_, ?_, ?_, trivial⟩
  · rw [matchesWith_iff, alike_ofContent_iff hn hm]
  · rintro grown hne ⟨more, hmore⟩
    rw [← hmore]
    exact ofContent_matchesWith_append hn hm hne more
  · rintro grown ⟨more, hmore⟩ hlong
    rw [← hmore]
    exact ofContent_append_matchesWith hn hm hlong more _
  · rintro grown ⟨more, hmore⟩ hlong
    rw [← hmore, matchesWith_comm, matchesWith_comm (ofContent n f.content)]
    exact ofContent_append_matchesWith hm hn (by rwa [Nat.min_comm]) more _

/-- A file with the bytes `hello`, whose cursor stands past its end, and one with the bytes `help`: they
differ in the fourth byte, which a limit of three leaves out. -/
theorem captures_match_hello :
    let hello : FileHandle := ⟨[0x68, 0x65, 0x6C, 0x6C, 0x6F], 9⟩
    let help : FileHandle := ⟨[0x68, 0x65, 0x6C, 0x70], 0⟩
    0 < 16 ∧ 0 < 3 ∧ (capture hello 16).1.matchesWith (capture help 3).1 = true ∧
      (capture hello 16).1.matchesWith (capture help 4).1 = false ∧ (capture hello 16).2 = hello := by
  intro hello help
  have hthree := captures_match_iff_agree (by decide : 0 < 16) (by decide : 0 < 3) hello help
  have hfour := captures_match_iff_agree (by decide : 0 < 16) (by decide : 0 < 4) hello help
  refine ⟨by decide, by decide, hthree.1.mpr (by decide), ?_, hthree.2.2.2.2.2⟩
  exact Bool.eq_false_iff.mpr (mt hfour.1.mp (by decide))

end Fingerprint

end LogFollow
