import LogFollow.Framing
import LogFollow.Proofs.Bytes

/-!
# Where matches lie

A way through a program remembers places between the one where the search began and the one where it
stands. So a match lies in the subject, and does not start before the place from which it was looked for.
-/
namespace LogFollow

namespace Pattern

/-- The remembered places lie between two indices. -/
def Slots.Between (lo hi : Nat) (slots : Slots) : Prop := ∀ entry ∈ slots, lo ≤ entry.2 ∧ entry.2 ≤ hi

namespace Slots

variable {lo hi : Nat} {slots : Slots}

theorem between_nil (lo hi : Nat) : Between lo hi [] := nofun

theorem Between.mono (h : slots.Between lo hi) {hi' : Nat} (hle : hi ≤ hi') : slots.Between lo hi' :=
  fun entry he => ⟨(h entry he).1, Nat.le_trans (h entry he).2 hle⟩

theorem Between.put (h : slots.Between lo hi) (slot : Nat) {index : Nat} (hlo : lo ≤ index)
    (hhi : index ≤ hi) : (slots.put slot index).Between lo hi := by
  intro entry he
  rcases List.mem_cons.mp he with rfl | he
  · exact ⟨hlo, hhi⟩
  · exact h entry (List.mem_filter.mp he).1

theorem Between.get? (h : slots.Between lo hi) {slot index : Nat} (hs : slots.get? slot = some index) :
    lo ≤ index ∧ index ≤ hi := by
  obtain ⟨entry, he, rfl⟩ := Option.map_eq_some_iff.mp hs
  exact h entry (List.mem_of_find?_eq_some he)

end Slots

/-- The ways remember places between two indices. -/
def Thread.Between (lo hi : Nat) (threads : List Thread) : Prop := ∀ t ∈ threads, t.slots.Between lo hi

/-- The ways that were gathered, and the match among them, remember places between two indices. -/
structure Gathered.Between (lo hi : Nat) (g : Gathered) : Prop where
  ready : Thread.Between lo hi g.ready
  found : ∀ slots, g.found = some slots → slots.Between lo hi

namespace Search

variable {s : Search} {lo hi : Nat} {threads : List Thread}

/-- Following ways remembers no place but the one at hand. -/
theorem between_follow {place : Place} (hlo : lo ≤ place.index) (fuel : Nat) (pending : List Thread)
    (g : Gathered) (hp : Thread.Between lo place.index pending) (hg : g.Between lo place.index) :
    (s.follow place fuel pending g).Between lo place.index := by
  fun_induction follow s place fuel pending g with
  | case1 => exact hg
  | case2 => exact hg
  | case3 fuel t pending g hreached ih => exact ih (List.forall_mem_cons.mp hp).2 hg
  | case4 fuel t pending _ _ g hnone ih => exact ih (List.forall_mem_cons.mp hp).2 ⟨hg.ready, hg.found⟩
  | case5 fuel t pending _ _ g haccept =>
    refine ⟨hg.ready, fun slots hs => ?_⟩
    obtain rfl := Option.some.inj hs
    exact (List.forall_mem_cons.mp hp).1
  | case6 fuel t pending _ _ g next hpass ih =>
    obtain ⟨ht, hrest⟩ := List.forall_mem_cons.mp hp
    exact ih (List.forall_mem_cons.mpr ⟨ht, hrest⟩) ⟨hg.ready, hg.found⟩
  | case7 fuel t pending _ _ g latestFirst _ hfork ways ih =>
    obtain ⟨ht, hrest⟩ := List.forall_mem_cons.mp hp
    refine ih (fun t' ht' => ?_) ⟨hg.ready, hg.found⟩
    rcases List.mem_append.mp ht' with ht' | ht'
    · obtain ⟨state, -, rfl⟩ := List.mem_map.mp ht'
      exact ht
    · exact hrest t' ht'
  | case8 fuel t pending _ _ g l next hlook hholds ih =>
    obtain ⟨ht, hrest⟩ := List.forall_mem_cons.mp hp
    exact ih (List.forall_mem_cons.mpr ⟨ht, hrest⟩) ⟨hg.ready, hg.found⟩
  | case9 fuel t pending _ _ g l next hlook hholds ih =>
    exact ih (List.forall_mem_cons.mp hp).2 ⟨hg.ready, hg.found⟩
  | case10 fuel t pending _ _ g slot next hsave slots ih =>
    obtain ⟨ht, hrest⟩ := List.forall_mem_cons.mp hp
    refine ih (List.forall_mem_cons.mpr ⟨?_, hrest⟩) ⟨hg.ready, hg.found⟩
    change Slots.Between lo place.index (if s.keeps slot then t.slots.put slot place.index else t.slots)
    split
    · exact ht.put slot hlo (Nat.le_refl _)
    · exact ht
  | case11 fuel t pending _ _ g steps hconsume ih =>
    obtain ⟨ht, hrest⟩ := List.forall_mem_cons.mp hp
    exact ih hrest ⟨List.forall_mem_cons.mpr ⟨ht, hg.ready⟩, hg.found⟩
  | case12 fuel t pending _ _ g step hconsume ih =>
    obtain ⟨ht, hrest⟩ := List.forall_mem_cons.mp hp
    exact ih hrest ⟨List.forall_mem_cons.mpr ⟨ht, hg.ready⟩, hg.found⟩

theorem between_gather (s : Search) (place : Place) (reached : Array Nat) (best : Option (Slots × Nat))
    (hlo : lo ≤ place.index) (ht : Thread.Between lo place.index threads) :
    (s.gather place threads reached best).Between lo place.index := by
  refine between_follow hlo _ _ _ ?_ ⟨nofun, nofun⟩
  split
  · exact ht
  · intro t hmem
    rcases List.mem_append.mp hmem with hmem | hmem
    · exact ht t hmem
    · rw [List.mem_singleton.mp hmem]
      exact Slots.between_nil _ _

/-- Consuming a byte remembers nothing. -/
theorem between_consume (ht : Thread.Between lo hi threads) (b : UInt8) :
    Thread.Between lo hi (threads.filterMap (s.consume b)) := by
  intro t hmem
  obtain ⟨previous, hprevious, hc⟩ := List.mem_filterMap.mp hmem
  obtain ⟨next, -, rfl⟩ := Option.map_eq_some_iff.mp hc
  exact ht previous hprevious

/-- A match and its end lie between two indices. -/
def Lies (lo hi : Nat) (found : Slots × Nat) : Prop :=
  found.1.Between lo found.2 ∧ lo ≤ found.2 ∧ found.2 ≤ hi

theorem lies_run {index : Nat} {before rest : Bytes} {reached : Array Nat}
    {best : Option (Slots × Nat)} (hlo : lo ≤ index)
    (ht : Thread.Between lo index threads) (hbest : ∀ found ∈ best, Lies lo (index + rest.length) found) :
    ∀ found ∈ s.run before index threads reached best rest, Lies lo (index + rest.length) found := by
  -- the best match after a place: the one that ends there, or the one before
  have hnext {best : Option (Slots × Nat)} {g : Gathered} {index hi : Nat} (hlo : lo ≤ index)
      (hhi : index ≤ hi) (hg : g.Between lo index) (hbest : ∀ found ∈ best, Lies lo hi found) :
      ∀ found ∈ (g.found.map (·, index)).or best, Lies lo hi found := by
    intro found hf
    cases hfound : g.found with
    | none =>
      rw [hfound] at hf
      exact hbest found hf
    | some slots =>
      rw [hfound] at hf
      obtain rfl := Option.some.inj hf
      exact ⟨hg.found slots hfound, hlo, hhi⟩
  induction rest generalizing before index threads reached best with
  | nil =>
    exact hnext hlo (Nat.le_refl _) (s.between_gather ⟨index, before, []⟩ reached best hlo ht) hbest
  | cons b rest ih =>
    have hg := s.between_gather ⟨index, before, b :: rest⟩ reached best hlo ht
    have hbest' := hnext hlo (Nat.le_add_right index (b :: rest).length) hg hbest
    rw [run]
    split
    · exact hbest'
    · rw [List.length_cons, ← Nat.add_assoc, Nat.add_right_comm] at hbest' ⊢
      refine ih (Nat.le_succ_of_le hlo) (between_consume ?_ b) hbest'
      exact fun t hmem => (hg.ready t (List.mem_reverse.mp hmem)).mono (Nat.le_succ _)

theorem lies_first? {subject : Bytes} {start : Nat} {found : Slots × Nat}
    (h : s.first? subject start = some found) : Lies start subject.length found := by
  unfold first? at h
  split at h
  · cases h
  · next hreaches =>
    have hle : start ≤ subject.length := (Bytes.reaches_iff _ _).mp (by simpa using hreaches)
    have hlies := lies_run (s := s) (Nat.le_refl start)
      (fun t ht => absurd ht List.not_mem_nil) (fun found hf => absurd hf (Option.not_mem_none _)) found h
    rwa [List.length_drop, Nat.add_sub_cancel' hle] at hlies

end Search

end Pattern

/-- **The matches of a compiled pattern lie where they are looked for.** -/
theorem Matcher.lawful_ofRegex (r : Pattern.Regex) : (ofRegex r).Lawful := by
  intro data start span h
  obtain ⟨⟨slots, stop⟩, hfirst, rfl⟩ := Option.map_eq_some_iff.mp h
  obtain ⟨hslots, hlo, hhi⟩ := Pattern.Search.lies_first? hfirst
  change start ≤ (slots.get? 0).getD start ∧ (slots.get? 0).getD start ≤ stop ∧ stop ≤ data.length
  cases hs : slots.get? 0 with
  | none => exact ⟨Nat.le_refl _, hlo, hhi⟩
  | some index => exact ⟨(hslots.get? hs).1, (hslots.get? hs).2, hhi⟩

end LogFollow
