import LogFollow.Proofs.Fingerprint
import LogFollow.Registry
import Mathlib.Data.List.Nodup

/-!
# Which candidate a file is matched with

The registry folds over the candidates that match a fingerprint and keeps the best one. This module says
what it keeps, independent of slots: some candidate that matches, and above which none ranks. A path is
then resolved to a successor of that candidate, which is a candidate no more.
-/
namespace LogFollow

namespace Registry

/-! ## Ranks -/

theorem Rank.atMost_iff (a b : Rank) : a.atMost b = true ↔
    a.common < b.common ∨ a.common = b.common ∧ (a.bound.toNat < b.bound.toNat ∨
      a.bound.toNat = b.bound.toNat ∧ a.generation ≤ b.generation) := by
  unfold atMost
  by_cases hc : a.common = b.common
  · rw [if_neg (fun h => h hc)]
    cases a.bound <;> cases b.bound <;> simp [hc]
  · rw [if_pos hc, decide_eq_true_eq]
    omega

theorem Rank.common_le_of_atMost {a b : Rank} (h : a.atMost b = true) : a.common ≤ b.common := by
  rw [atMost_iff] at h
  omega

theorem Rank.atMost_total (a b : Rank) : a.atMost b = true ∨ b.atMost a = true := by
  rw [atMost_iff, atMost_iff]
  omega

theorem Rank.atMost_trans {a b c : Rank} (hab : a.atMost b = true) (hbc : b.atMost c = true) :
    a.atMost c = true := by
  rw [atMost_iff] at *
  omega

/-! ## The best candidate -/

/-- The fold over candidates keeps one that none before it ranks above, and that ranks above all behind
it. -/
theorem foldl_better_split (path : String) (fingerprint : Fingerprint) (slots : List (Nat × Reader))
    (best : Nat × Reader) :
    ∃ before b after, best :: slots = before ++ b :: after ∧
      slots.foldl (better path fingerprint) (some best) = some b ∧
      (∀ c ∈ before, (rank path fingerprint c.2).atMost (rank path fingerprint b.2) = true) ∧
      ∀ c ∈ after, ¬ (rank path fingerprint b.2).atMost (rank path fingerprint c.2) = true := by
  induction slots generalizing best with
  | nil => exact ⟨[], best, [], rfl, rfl, by simp, by simp⟩
  | cons next slots ih =>
    rw [List.foldl_cons, better]
    by_cases h : (rank path fingerprint best.2).atMost (rank path fingerprint next.2) = true
    · obtain ⟨before, b, after, hsplit, hb, hbefore, hafter⟩ := ih next
      rw [if_pos h]
      refine ⟨best :: before, b, after, by rw [hsplit, List.cons_append], hb, ?_, hafter⟩
      intro c hc
      rcases List.mem_cons.mp hc with rfl | hc
      · -- the best one so far is not above the next one, which is kept or stands before the kept one
        cases before with
        | nil =>
          obtain ⟨rfl, -⟩ := List.cons.inj hsplit
          exact h
        | cons first before =>
          obtain ⟨rfl, -⟩ := List.cons.inj hsplit
          exact Rank.atMost_trans h (hbefore _ List.mem_cons_self)
      · exact hbefore c hc
    · obtain ⟨before, b, after, hsplit, hb, hbefore, hafter⟩ := ih best
      rw [if_neg h]
      cases before with
      | nil =>
        obtain ⟨rfl, rfl⟩ := List.cons.inj hsplit
        refine ⟨[], best, next :: slots, rfl, hb, by simp, ?_⟩
        intro c hc
        rcases List.mem_cons.mp hc with rfl | hc
        · exact h
        · exact hafter c hc
      | cons first before =>
        obtain ⟨rfl, rfl⟩ := List.cons.inj hsplit
        refine ⟨best :: next :: before, b, after, rfl, hb, ?_, hafter⟩
        have hbest := hbefore best List.mem_cons_self
        have hnext := (Rank.atMost_total (rank path fingerprint best.2)
          (rank path fingerprint next.2)).resolve_left h
        intro c hc
        rcases List.mem_cons.mp hc with rfl | hc
        · exact hbest
        · rcases List.mem_cons.mp hc with rfl | hc
          · exact Rank.atMost_trans hnext hbest
          · exact hbefore c (List.mem_cons_of_mem _ hc)

/-- What the fold over candidates keeps: one of them, or the one it began with. None ranks above it. -/
theorem foldl_better (path : String) (fingerprint : Fingerprint) (slots : List (Nat × Reader))
    (best : Nat × Reader) :
    ∃ b, slots.foldl (better path fingerprint) (some best) = some b ∧ b ∈ best :: slots ∧
      ∀ c ∈ best :: slots,
        (rank path fingerprint c.2).atMost (rank path fingerprint b.2) = true := by
  obtain ⟨before, b, after, hsplit, hb, hbefore, hafter⟩ :=
    foldl_better_split path fingerprint slots best
  rw [hsplit]
  refine ⟨b, hb, by simp, fun c hc => ?_⟩
  rcases List.mem_append.mp hc with hc | hc
  · exact hbefore c hc
  · rcases List.mem_cons.mp hc with rfl | hc
    · exact (Rank.atMost_total _ _).elim id id
    · exact (Rank.atMost_total _ _).resolve_left (hafter c hc)

theorem mem_matching {fingerprint : Fingerprint} {g : Registry} {i : Nat} {r : Reader} :
    (i, r) ∈ matching fingerprint g.candidates ↔
      g.candidates[i]? = some (some r) ∧ r.fingerprint.matchesWith fingerprint = true := by
  unfold matching
  rw [List.mem_filterMap]
  constructor
  · rintro ⟨⟨slot, j⟩, hm, hs⟩
    rw [List.mem_zipIdx_iff_getElem?] at hm
    cases slot with
    | none => cases hs
    | some r' =>
      simp only [Option.ite_none_right_eq_some, Option.some.injEq, Prod.mk.injEq] at hs
      obtain ⟨hmatch, rfl, rfl⟩ := hs
      exact ⟨hm, hmatch⟩
  · rintro ⟨hm, hmatch⟩
    exact ⟨(some r, i), List.mem_zipIdx_iff_getElem?.mpr hm, by simp [hmatch]⟩

theorem mem_readers {g : Registry} {r : Reader} :
    r ∈ g.readers ↔ ∃ i : Nat, g.candidates[i]? = some (some r) := by
  unfold readers
  rw [List.mem_filterMap]
  constructor
  · rintro ⟨slot, hm, rfl⟩
    exact List.getElem?_of_mem hm
  · rintro ⟨i, hi⟩
    exact ⟨some r, List.mem_of_getElem? hi, rfl⟩

/-- What is known of the best candidate: its slot, that it matches, and that none ranks above it. -/
structure IsBest (g : Registry) (path : String) (fingerprint : Fingerprint) (i : Nat)
    (r : Reader) : Prop where
  slot : g.candidates[i]? = some (some r)
  hit : r.fingerprint.matchesWith fingerprint = true
  best : ∀ c ∈ g.readers, c.fingerprint.matchesWith fingerprint = true →
    (rank path fingerprint c).atMost (rank path fingerprint r) = true

/-- The best candidate is found just if some candidate matches. -/
theorem best?_spec (g : Registry) (path : String) (fingerprint : Fingerprint) :
    (g.best? path fingerprint = none ∧
      ∀ c ∈ g.readers, c.fingerprint.matchesWith fingerprint = false) ∨
    ∃ i r, g.best? path fingerprint = some (i, r) ∧ IsBest g path fingerprint i r := by
  unfold best?
  cases hm : matching fingerprint g.candidates with
  | nil =>
    refine .inl ⟨rfl, fun c hc => ?_⟩
    obtain ⟨i, hi⟩ := mem_readers.mp hc
    rw [← Bool.not_eq_true]
    intro hmatch
    have hmem := mem_matching.mpr ⟨hi, hmatch⟩
    rw [hm] at hmem
    exact List.not_mem_nil hmem
  | cons first rest =>
    obtain ⟨⟨i, r⟩, hb, hmem, hmax⟩ :=
      foldl_better path fingerprint rest first
    rw [← hm] at hmem hmax
    obtain ⟨hslot, hmatch⟩ := mem_matching.mp hmem
    refine .inr ⟨i, r, hb, hslot, hmatch, fun c hc hcmatch => ?_⟩
    obtain ⟨j, hj⟩ := mem_readers.mp hc
    exact hmax (j, c) (mem_matching.mpr ⟨hj, hcmatch⟩)

/-- A candidate that matches is the best one if no other one ranks as high. -/
theorem best?_eq_of_beats {g : Registry} {path : String} {fingerprint : Fingerprint} {r : Reader}
    (hr : r ∈ g.readers) (hm : r.fingerprint.matchesWith fingerprint = true)
    (hbeats : ∀ c ∈ g.readers, c.fingerprint.matchesWith fingerprint = true →
      (rank path fingerprint r).atMost (rank path fingerprint c) = true → c = r) :
    (g.best? path fingerprint).map Prod.snd = some r := by
  rcases g.best?_spec path fingerprint with ⟨-, hnone⟩ | ⟨i, c, hb, hbest⟩
  · rw [hnone r hr] at hm
    cases hm
  · rw [hb, Option.map_some]
    exact congrArg some
      (hbeats c (mem_readers.mpr ⟨i, hbest.slot⟩) hbest.hit (hbest.best r hr hm))

/-- No candidate is found for a file without bytes. -/
theorem best?_of_isEmpty (g : Registry) (path : String) {fingerprint : Fingerprint}
    (h : fingerprint.isEmpty = true) : g.best? path fingerprint = none := by
  rcases g.best?_spec path fingerprint with ⟨hb, -⟩ | ⟨i, r, -, hbest⟩
  · exact hb
  · have hhit := hbest.hit
    rw [Fingerprint.matchesWith_comm, Fingerprint.matchesWith_of_isEmpty h] at hhit
    cases hhit

/-! ## Taking a candidate -/

/-- Without its best candidate a registry has the others. -/
theorem readers_take {g : Registry} {i : Nat} {r : Reader}
    (h : g.candidates[i]? = some (some r)) :
    ∃ before after, g.readers = before ++ r :: after ∧ (g.take i).readers = before ++ after := by
  obtain ⟨hi, hr⟩ := List.getElem?_eq_some_iff.mp h
  refine ⟨(g.candidates.take i).filterMap id, (g.candidates.drop (i + 1)).filterMap id, ?_, ?_⟩
  · have hsplit := List.take_append_drop i g.candidates
    rw [List.drop_eq_getElem_cons hi, hr] at hsplit
    have hmap := congrArg (List.filterMap id) hsplit
    rw [List.filterMap_append] at hmap
    exact hmap.symm
  · change (g.candidates.set i none).filterMap id = _
    rw [List.set_eq_take_append_cons_drop, if_pos hi, List.filterMap_append]
    rfl

/-- Of readers that are all different the registry loses just the one that is taken. -/
theorem mem_readers_take {g : Registry} (hnd : g.readers.Nodup) {i : Nat} {own : Reader}
    (h : g.candidates[i]? = some (some own)) (r : Reader) :
    r ∈ (g.take i).readers ↔ r ∈ g.readers ∧ own ≠ r := by
  obtain ⟨before, after, hg, ht⟩ := readers_take h
  rw [hg, List.nodup_middle] at hnd
  obtain ⟨hown, -⟩ := List.nodup_cons.mp hnd
  rw [ht, hg, List.mem_append, List.mem_append, List.mem_cons]
  constructor
  · intro hr
    refine ⟨hr.imp_right .inr, ?_⟩
    rintro rfl
    exact hown (List.mem_append.mpr hr)
  · rintro ⟨hr | hr | hr, hne⟩
    · exact .inl hr
    · exact absurd hr.symm hne
    · exact .inr hr

/-- The reader of a file that goes on where a previous reader stopped, or starts if there is none. -/
def successor (g : Registry) (settings : ReadSettings) (fs : FileSystem) (path : String)
    (fingerprint : Fingerprint) (size : Nat) (firstPoll : Bool) : Option Reader → Reader
  | some previous =>
    { Reader.inherit settings fs path fingerprint previous with generation := g.generation }
  | none =>
    { Reader.new settings fs path fingerprint (g.firstOffset firstPoll size) with
      generation := g.generation }

/-- The registry without the candidate that a path is matched with. -/
def without (g : Registry) (path : String) (fingerprint : Fingerprint) : Registry :=
  match g.best? path fingerprint with
  | some (slot, _) => g.take slot
  | none => g

theorem assign_eq (g : Registry) (settings : ReadSettings) (fs : FileSystem) (path : String)
    (fingerprint : Fingerprint) (size : Nat) (firstPoll : Bool) :
    g.assign settings fs path fingerprint size firstPoll =
      (g.successor settings fs path fingerprint size firstPoll
        ((g.best? path fingerprint).map Prod.snd), g.without path fingerprint) := by
  unfold assign without
  cases g.best? path fingerprint <;> rfl

/-- What cannot be fingerprinted has no reader. -/
theorem resolve_of_error {settings : ReadSettings} {opened : FileSystem.Opened} {cause : IoError}
    (h : opened.fingerprint settings.fingerprintSize = .error cause) (g : Registry)
    (fs : FileSystem) (path : String) (firstPoll : Bool) :
    g.resolve settings fs path opened firstPoll = (.error cause, g) := by
  rw [resolve, h]

/-- A file without first bytes has no reader; any other file has a successor of its best candidate. -/
theorem resolve_of_fingerprint {settings : ReadSettings} {opened : FileSystem.Opened}
    {fingerprint : Fingerprint}
    (h : opened.fingerprint settings.fingerprintSize = .ok fingerprint) (g : Registry)
    (fs : FileSystem) (path : String) (firstPoll : Bool) :
    g.resolve settings fs path opened firstPoll =
      if fingerprint.isEmpty = true then (.ok none, g)
      else
        (.ok (some (g.successor settings fs path fingerprint opened.size firstPoll
          ((g.best? path fingerprint).map Prod.snd))), g.without path fingerprint) := by
  rw [resolve, h]
  simp only [assign_eq]

theorem resolve_file {settings : ReadSettings} (hn : 0 < settings.fingerprintSize) (g : Registry)
    (fs : FileSystem) (path : String) (content : Bytes) (firstPoll : Bool) :
    g.resolve settings fs path (.file content) firstPoll =
      if content = [] then (.ok none, g)
      else
        (.ok (some (g.successor settings fs path
            (.ofContent settings.fingerprintSize content) content.length firstPoll
            ((g.best? path (.ofContent settings.fingerprintSize content)).map Prod.snd))),
          g.without path (.ofContent settings.fingerprintSize content)) := by
  have hf : FileSystem.Opened.fingerprint (.file content) settings.fingerprintSize =
      .ok (.ofContent settings.fingerprintSize content) := rfl
  rw [resolve_of_fingerprint hf, Fingerprint.isEmpty_ofContent hn]
  simp only [List.isEmpty_iff]
  rfl

theorem without_frame (g : Registry) (path : String) (fingerprint : Fingerprint) :
    (g.without path fingerprint).current = g.current ∧
      (g.without path fingerprint).startAtBeginning = g.startAtBeginning ∧
      (g.without path fingerprint).generation = g.generation := by
  unfold without
  split <;> exact ⟨rfl, rfl, rfl⟩

/-- Of readers that are all different the registry loses just the best candidate. -/
theorem mem_readers_without {g : Registry} (hnd : g.readers.Nodup) (path : String)
    (fingerprint : Fingerprint) (r : Reader) :
    r ∈ (g.without path fingerprint).readers ↔
      r ∈ g.readers ∧ (g.best? path fingerprint).map Prod.snd ≠ some r := by
  unfold without
  rcases best?_spec g path fingerprint with ⟨hb, -⟩ | ⟨i, own, hb, hbest⟩
  · rw [hb]
    simp
  · rw [hb]
    simp only [Option.map_some, ne_eq, Option.some.injEq]
    exact mem_readers_take hnd hbest.slot r

theorem nodup_readers_without {g : Registry} (hnd : g.readers.Nodup) (path : String)
    (fingerprint : Fingerprint) : (g.without path fingerprint).readers.Nodup := by
  unfold without
  rcases best?_spec g path fingerprint with ⟨hb, -⟩ | ⟨i, own, hb, hbest⟩
  · rwa [hb]
  · obtain ⟨before, after, hg, ht⟩ := readers_take hbest.slot
    rw [hb]
    simp only
    rw [hg, List.nodup_middle] at hnd
    rw [ht]
    exact (List.nodup_cons.mp hnd).2

end Registry

end LogFollow
