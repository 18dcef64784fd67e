import LogFollow.Proofs.Follower.Apart
import LogFollow.Proofs.Follower.FixedPaths

/-!
# Files that are known by their own readers only

Where each file that a poll finds is known by the reader that is bound to its path, and by no other one,
each path is matched with that reader. No reader is given up then, and what a poll takes from a file is what
the reading of its path delivers.
-/
namespace LogFollow

namespace World

/-- The paths that a poll reads, with the events that are accepted from each, up to the last readings of
the readers that it gives up. -/
def deliveries (w : World) : List (String × List Event) :=
  (w.readings.1 ++ w.flushes.1).map fun x => (x.reader.path, x.delivered)

/-- The events that a poll takes from the file at a path. -/
def taken (w : World) (path : String) : List Event :=
  (w.deliveries.filter fun entry => entry.1 = path).flatMap (·.2)

/-- A poll begins with readers of different paths, all of which it finds. What it finds are files, and a
file is known by the reader of its path only. -/
structure Known (settings : Settings) (w : World) : Prop where
  settings_eq : w.follower.settings = settings
  recognises : 0 < settings.fingerprintSize
  current : w.follower.registry.current = []
  distinct : (w.follower.registry.readers.map (·.path)).Nodup
  found : ∀ r ∈ w.follower.registry.readers, r.path ∈ settings.finder.find w.fs
  opens : ∀ path ∈ settings.finder.find w.fs, ∃ bytes, w.fs.openPath path = .ok (.file bytes)
  known : ∀ path ∈ settings.finder.find w.fs, ∀ bytes,
    w.fs.openPath path = .ok (.file bytes) → ∀ r ∈ w.follower.registry.readers,
      (r.fingerprint.matchesWith (.ofContent settings.fingerprintSize bytes) = true ↔ r.path = path)

variable {settings : Settings} {w : World} {path : String}

theorem Known.boundTo_eq_some_iff (h : Known settings w) {r : Reader} :
    w.follower.boundTo path = some r ↔ r ∈ w.follower.registry.readers ∧ r.path = path :=
  Follower.boundTo_eq_some_iff h.distinct

/-- Each path is matched with the reader that is bound to it. -/
theorem Known.recognises_boundTo (h : Known settings w) :
    Follower.Recognises w.fs w.follower.boundTo
      { w.follower with registry := w.follower.registry.beginPoll } (settings.finder.find w.fs) := by
  refine (Follower.recognises_iff (R := fun _ _ => True)
    (by rw [h.settings_eq]; exact h.recognises) h.opens ?_).mpr
    (List.pairwise_of_forall fun _ _ => trivial)
  intro done path rest hsplit g hg bytes hopen
  refine ⟨fun _ _ _ => trivial, fun _ => ?_⟩
  have hfound : path ∈ settings.finder.find w.fs :=
    hsplit ▸ List.mem_append_right _ List.mem_cons_self
  have hmem := hg.readers (List.Nodup.of_map _ h.distinct)
  rw [h.settings_eq]
  cases hown : w.follower.boundTo path with
  | none =>
    rcases g.best?_spec path (.ofContent settings.fingerprintSize bytes) with
      ⟨hb, -⟩ | ⟨i, r, -, hbest⟩
    · rw [hb]
      rfl
    · have hr : r ∈ w.follower.registry.readers :=
        ((hmem r).mp (Registry.mem_readers.mpr ⟨i, hbest.slot⟩)).1
      have hpath := (h.known path hfound bytes hopen r hr).mp hbest.hit
      rw [h.boundTo_eq_some_iff.mpr ⟨hr, hpath⟩] at hown
      cases hown
  | some own =>
    obtain ⟨hr, hpath⟩ := h.boundTo_eq_some_iff.mp hown
    have hleft : own ∈ g.readers := by
      refine (hmem own).mpr ⟨hr, fun p hp hb => ?_⟩
      rw [← (h.boundTo_eq_some_iff.mp hb).2, hpath] at hp
      exact (Finder.split_spec hsplit).1 hp
    refine Registry.best?_eq_of_beats hleft ((h.known path hfound bytes hopen own hr).mpr hpath)
      fun c hc hm _ => ?_
    have hcr := ((hmem c).mp hc).1
    have hcpath := (h.known path hfound bytes hopen c hcr).mp hm
    exact List.inj_on_of_nodup_map h.distinct hcr hr (hcpath.trans hpath.symm)

theorem Known.resolves (h : Known settings w) :
    ∃ g, w.resolved = ((settings.finder.find w.fs).filterMap
        (Follower.follow { w.follower with registry := w.follower.registry.beginPoll } w.fs
          w.follower.boundTo), { w.follower with registry := g }) ∧
      Follower.Remains w.follower.boundTo (settings.finder.find w.fs)
        w.follower.registry.beginPoll g := by
  obtain ⟨g, hg, hrem⟩ := Follower.resolveAll_eq (settings.finder.find w.fs)
    (f := { w.follower with registry := w.follower.registry.beginPoll })
    (by rw [h.settings_eq]; exact h.recognises) h.opens h.recognises_boundTo
  refine ⟨g, ?_, hrem⟩
  rw [resolved, h.settings_eq]
  exact hg

/-- All readers have been matched with a path. -/
theorem Known.readers_resolved (h : Known settings w) : w.resolved.2.registry.readers = [] := by
  obtain ⟨g, hg, hrem⟩ := h.resolves
  rw [hg]
  refine List.eq_nil_iff_forall_not_mem.mpr fun r hr => ?_
  obtain ⟨hmem, hprior⟩ := (hrem.readers (List.Nodup.of_map _ h.distinct) r).mp hr
  exact hprior r.path (h.found r hmem) (h.boundTo_eq_some_iff.mpr ⟨hmem, rfl⟩)

theorem Known.current_resolved (h : Known settings w) : w.resolved.2.registry.current = [] := by
  obtain ⟨g, hg, hrem⟩ := h.resolves
  rw [hg]
  exact hrem.current.trans h.current

/-- No reader is given up, so that there are no last readings. -/
theorem Known.flushes_eq (h : Known settings w) : w.flushes = ([], w.readings.2) := by
  obtain ⟨-, -, -, -, -, hsink⟩ := foldl_settle_frame (w.readings.1.map (·.reading)) w.hasRead
  rw [flushes, readers_settled, h.readers_resolved]
  exact congrArg (Prod.mk []) hsink

theorem Known.nodup_paths (h : Known settings w) : (w.readings.1.map (·.reader.path)).Nodup := by
  obtain ⟨g, hg, -⟩ := h.resolves
  have hpaths : w.readings.1.map (·.reader.path) = w.resolved.1.map (·.path) := by
    rw [← w.map_reader_readings, List.map_map]
    rfl
  rw [hpaths, hg]
  exact (Finder.find_nodup settings.finder w.fs).sublist
    (Follower.map_path_follow_sublist _ w.fs _ _)

theorem Known.deliveries_eq (h : Known settings w) :
    w.deliveries = w.readings.1.map fun x => (x.reader.path, x.delivered) := by
  rw [deliveries, h.flushes_eq, List.append_nil]

/-- What a poll takes from a file is what the reading of its path delivers. -/
theorem Known.taken_eq (h : Known settings w) {x : Passage} (hx : x ∈ w.readings.1) :
    w.taken x.reader.path = x.delivered := by
  rw [taken, h.deliveries_eq]
  refine flatMap_filter_of_unique (fun path => path = x.reader.path) ?_ (List.mem_map_of_mem hx)
    (decide_eq_true rfl) fun entry _ hentry => of_decide_eq_true hentry
  rw [List.map_map]
  exact h.nodup_paths

theorem Known.taken_of_unread (h : Known settings w)
    (hu : ∀ x ∈ w.readings.1, x.reader.path ≠ path) : w.taken path = [] := by
  rw [taken, h.deliveries_eq, List.flatMap_eq_nil_iff]
  intro entry hentry
  obtain ⟨hmem, hpath⟩ := List.mem_filter.mp hentry
  obtain ⟨x, hx, rfl⟩ := List.mem_map.mp hmem
  exact absurd (of_decide_eq_true hpath) (hu x hx)

end World

end LogFollow
