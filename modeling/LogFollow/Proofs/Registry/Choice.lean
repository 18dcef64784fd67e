import LogFollow.Proofs.Registry.Match
import Mathlib.Data.Bool.Basic
import Mathlib.Data.Prod.Lex

/-!
# The slot a file is matched with

The candidates that know a file are compared by a triple of numbers, part by part. The registry gives the
file the greatest of them, and the last one of those that are equally great: with its slot the choice is
unique. This module describes the choice without the fold that makes it, and says all that resolving a
path gives back and leaves behind.
-/
namespace LogFollow

namespace Registry

/-- What candidates are compared by: the length of what a candidate and a file have in common, whether
the candidate is bound to the path of the file, and the poll in which it was last found. -/
def merit (path : String) (fingerprint : Fingerprint) (r : Reader) : ℕ ×ₗ Bool ×ₗ ℕ :=
  toLex (min r.fingerprint.size fingerprint.size, toLex (FilePath.same r.path path, r.generation))

theorem atMost_iff_merit_le (path : String) (fingerprint : Fingerprint) (a b : Reader) :
    (rank path fingerprint a).atMost (rank path fingerprint b) = true ↔
      merit path fingerprint a ≤ merit path fingerprint b := by
  rw [Rank.atMost_iff, merit, merit, Prod.Lex.toLex_le_toLex, Prod.Lex.toLex_le_toLex]
  simp only [rank]
  cases FilePath.same a.path path <;> cases FilePath.same b.path path <;> simp

/-- A slot and the candidate in it which a file is given: none that is like the file has a greater
merit, and none in a later slot the same. -/
structure Chosen (g : Registry) (path : String) (fingerprint : Fingerprint) (slot : Nat)
    (r : Reader) : Prop where
  holds : g.candidates[slot]? = some (some r)
  alike : r.fingerprint.Alike fingerprint
  greatest : ∀ (i : Nat) (c : Reader), g.candidates[i]? = some (some c) →
    c.fingerprint.Alike fingerprint → merit path fingerprint c ≤ merit path fingerprint r
  last : ∀ (i : Nat) (c : Reader), slot < i → g.candidates[i]? = some (some c) →
    c.fingerprint.Alike fingerprint → merit path fingerprint c < merit path fingerprint r

variable {g : Registry} {path : String} {fingerprint : Fingerprint}

theorem Chosen.unique {i j : Nat} {r c : Reader} (hr : g.Chosen path fingerprint i r)
    (hc : g.Chosen path fingerprint j c) : i = j ∧ r = c := by
  obtain rfl : i = j := by
    rcases Nat.lt_trichotomy i j with h | h | h
    · exact absurd (hc.greatest i r hr.holds hr.alike) (hr.last j c h hc.holds hc.alike).not_ge
    · exact h
    · exact absurd (hr.greatest j c hc.holds hc.alike) (hc.last i r h hr.holds hr.alike).not_ge
  exact ⟨rfl, Option.some.inj (Option.some.inj (hr.holds.symm.trans hc.holds))⟩

/-- The matching candidates are listed in the order of their slots. -/
theorem pairwise_matching (fingerprint : Fingerprint) (slots : List (Option Reader)) :
    (matching fingerprint slots).Pairwise fun a b => a.1 < b.1 := by
  unfold matching
  rw [List.pairwise_filterMap]
  have hzip : (slots.zipIdx).Pairwise fun a b => a.2 < b.2 := by
    rw [← List.pairwise_map (f := Prod.snd) (R := (· < ·)), List.zipIdx_map_snd]
    exact List.pairwise_lt_range'
  refine hzip.imp ?_
  rintro ⟨slot, i⟩ ⟨slot', j⟩ hij ⟨k, r⟩ hr ⟨l, c⟩ hc
  cases slot with
  | none => cases hr
  | some own =>
    cases slot' with
    | none => cases hc
    | some other =>
      simp only [Option.ite_none_right_eq_some, Option.some.injEq, Prod.mk.injEq] at hr hc
      obtain ⟨-, rfl, -⟩ := hr
      obtain ⟨-, rfl, -⟩ := hc
      exact hij

/-- The best candidate stands in the chosen slot. -/
theorem chosen_of_best? {slot : Nat} {r : Reader} (h : g.best? path fingerprint = some (slot, r)) :
    g.Chosen path fingerprint slot r := by
  unfold best? at h
  cases hm : matching fingerprint g.candidates with
  | nil =>
    rw [hm] at h
    cases h
  | cons first rest =>
    obtain ⟨before, b, after, hsplit, hb, hbefore, hafter⟩ :=
      foldl_better_split path fingerprint rest first
    rw [hm] at h
    obtain rfl : b = (slot, r) := Option.some.inj (hb.symm.trans h)
    have hlisted : matching fingerprint g.candidates = before ++ (slot, r) :: after :=
      hm.trans hsplit
    have hlater : ∀ c ∈ after, merit path fingerprint c.2 < merit path fingerprint r := by
      intro c hc
      have hnot := hafter c hc
      rw [atMost_iff_merit_le] at hnot
      exact not_le.mp hnot
    obtain ⟨hslot, hmatch⟩ := mem_matching.mp
      (hlisted ▸ List.mem_append_right before List.mem_cons_self)
    have horder := pairwise_matching fingerprint g.candidates
    rw [hlisted, List.pairwise_append] at horder
    obtain ⟨-, -, horder⟩ := horder
    -- each candidate that is like the file stands before the kept one, is it, or stands behind it
    have hall : ∀ (i : Nat) (c : Reader), g.candidates[i]? = some (some c) →
        c.fingerprint.Alike fingerprint → (i, c) ∈ before ∨ (i, c) = (slot, r) ∨ (i, c) ∈ after := by
      intro i c hi hc
      have hmem := mem_matching.mpr ⟨hi, (Fingerprint.matchesWith_iff _ _).mpr hc⟩
      rw [hlisted, List.mem_append, List.mem_cons] at hmem
      exact hmem
    constructor
    · exact hslot
    · exact (Fingerprint.matchesWith_iff _ _).mp hmatch
    · intro i c hi hc
      rcases hall i c hi hc with h | h | h
      · exact (atMost_iff_merit_le ..).mp (hbefore _ h)
      · cases h
        exact le_rfl
      · exact (hlater _ h).le
    · intro i c hlt hi hc
      rcases hall i c hi hc with h | h | h
      · have := horder _ h _ List.mem_cons_self
        simp only at this
        omega
      · cases h
        omega
      · exact hlater _ h

theorem best?_eq_some_iff {slot : Nat} {r : Reader} :
    g.best? path fingerprint = some (slot, r) ↔ g.Chosen path fingerprint slot r := by
  constructor
  · exact chosen_of_best?
  · intro h
    rcases g.best?_spec path fingerprint with ⟨-, hnone⟩ | ⟨i, c, hb, -⟩
    · have hmiss := hnone r (mem_readers.mpr ⟨slot, h.holds⟩)
      rw [(Fingerprint.matchesWith_iff _ _).mpr h.alike] at hmiss
      cases hmiss
    · obtain ⟨rfl, rfl⟩ := (chosen_of_best? hb).unique h
      exact hb

/-- A slot is chosen just if some candidate is like the file. -/
theorem exists_chosen_iff :
    (∃ slot r, g.Chosen path fingerprint slot r) ↔
      ∃ r ∈ g.readers, r.fingerprint.Alike fingerprint := by
  constructor
  · rintro ⟨slot, r, h⟩
    exact ⟨r, mem_readers.mpr ⟨slot, h.holds⟩, h.alike⟩
  · rintro ⟨r, hr, halike⟩
    rcases g.best?_spec path fingerprint with ⟨-, hnone⟩ | ⟨i, c, hb, -⟩
    · have hmiss := hnone r hr
      rw [(Fingerprint.matchesWith_iff _ _).mpr halike] at hmiss
      cases hmiss
    · exact ⟨i, c, chosen_of_best? hb⟩

/-- A file is given no reader just if it has no first bytes. If the candidate in some slot is chosen for
it, its reader goes on where the candidate stopped, and just that slot is emptied. If no candidate is like
it, its reader begins at the beginning, or at the end if that is asked for and no poll was made before,
and the registry stays as it is. -/
theorem resolve_chooses (g : Registry) (settings : ReadSettings) (fs : FileSystem) (path : String)
    (content : Bytes) (firstPoll : Bool) :
    let first : Fingerprint := ⟨content.take (min content.length settings.fingerprintSize)⟩
    let resolved := g.resolve settings fs path (.file content) firstPoll
    (resolved.1 = .ok none ↔ first.bytes = []) ∧
      (first.bytes = [] → resolved.2 = g) ∧
      ((∃ r ∈ g.readers, r.fingerprint.Alike first) → ∃ slot r, g.Chosen path first slot r) ∧
      (∀ slot previous, g.Chosen path first slot previous →
        resolved = (.ok (some
          { path
            fingerprint := first
            offset := previous.offset
            lastSeenSize := previous.lastSeenSize
            generation := g.generation
            header := previous.header
            fileAttributes := settings.fileAttributes.attributes fs path }),
          { g with candidates := g.candidates.set slot none })) ∧
      (first.bytes ≠ [] → (∀ r ∈ g.readers, ¬ r.fingerprint.Alike first) →
        resolved = (.ok (some
          { Reader.new settings fs path first
              (if g.startAtBeginning = false ∧ firstPoll = true then content.length else 0) with
            generation := g.generation }), g)) := by
  intro first resolved
  have hfirst : FileSystem.Opened.fingerprint (.file content) settings.fingerprintSize =
      .ok first := by
    show Except.ok (Fingerprint.ofContent settings.fingerprintSize content) = _
    rw [Fingerprint.ofContent_eq]
  have hempty : first.bytes = [] → resolved = (.ok none, g) := by
    intro h
    exact (resolve_of_fingerprint hfirst ..).trans (if_pos (List.isEmpty_iff.mpr h))
  have hassign : first.bytes ≠ [] →
      resolved = (.ok (some (g.successor settings fs path first content.length firstPoll
        ((g.best? path first).map Prod.snd))), g.without path first) := by
    intro h
    exact (resolve_of_fingerprint hfirst ..).trans (if_neg fun he => h (List.isEmpty_iff.mp he))
  refine ⟨⟨fun h => ?_, fun h => ?_⟩, fun h => ?_, exists_chosen_iff.mpr, ?_, ?_⟩
  · by_contra hne
    rw [hassign hne] at h
    cases h
  · rw [hempty h]
  · rw [hempty h]
  · intro slot previous hchosen
    have hb := best?_eq_some_iff.mpr hchosen
    rw [hassign hchosen.alike.2.1, without, hb]
    rfl
  · intro hne hnone
    have hb : g.best? path first = none := by
      rw [Option.eq_none_iff_forall_not_mem]
      rintro ⟨slot, r⟩ h
      obtain ⟨r, hr, halike⟩ := exists_chosen_iff.mp ⟨slot, r, best?_eq_some_iff.mp h⟩
      exact hnone r hr halike
    rw [hassign hne, without, hb]
    simp only [Option.map_none, successor, firstOffset]
    cases g.startAtBeginning <;> cases firstPoll <;> rfl

end Registry

end LogFollow
