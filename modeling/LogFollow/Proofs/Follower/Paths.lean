import LogFollow.Proofs.Follower.Reachable
import Mathlib.Data.List.Perm.Subperm

/-!
# Each path has one reader

No two readers of a follower are bound to one path, if that holds of the checkpoints that it takes up: a
poll finds each path once, and the reader of a path is carried over, or found, but not both. A candidate
whose path is resolved to another reader, though it matches the file there, has been outranked: the reader
of another path has more of its beginning in common with the file.
-/
namespace LogFollow

/-- The parts of the path that a reader is bound to. -/
def Reader.parts (r : Reader) : List String := FilePath.parts r.path

/-- No two readers are bound to one path. -/
def DistinctPaths (rs : List Reader) : Prop := (rs.map Reader.parts).Nodup

theorem FilePath.same_iff {p q : String} : same p q = true ↔ parts p = parts q := beq_iff_eq

theorem DistinctPaths.nodup {rs : List Reader} (h : DistinctPaths rs) : rs.Nodup :=
  List.Nodup.of_map _ h

theorem DistinctPaths.eq_of_same {rs : List Reader} (h : DistinctPaths rs) {r c : Reader}
    (hr : r ∈ rs) (hc : c ∈ rs) {path : String} (hrp : FilePath.same r.path path = true)
    (hcp : FilePath.same c.path path = true) : r = c :=
  List.inj_on_of_nodup_map h hr hc
    ((FilePath.same_iff.mp hrp).trans (FilePath.same_iff.mp hcp).symm)

namespace Registry

theorem readers_take_sublist {g : Registry} {i : Nat} {r : Reader}
    (h : g.candidates[i]? = some (some r)) : (g.take i).readers.Sublist g.readers := by
  obtain ⟨before, after, hg, ht⟩ := readers_take h
  rw [hg, ht]
  exact (List.sublist_cons_self r after).append_left before

theorem readers_without_sublist (g : Registry) (path : String) (fingerprint : Fingerprint) :
    (g.without path fingerprint).readers.Sublist g.readers := by
  unfold without
  rcases g.best?_spec path fingerprint with ⟨hb, -⟩ | ⟨i, r, hb, hbest⟩
  · rw [hb]
  · rw [hb]
    exact readers_take_sublist hbest.slot

/-- The candidate that is found for a path is bound to it. -/
theorem bound?_spec {g : Registry} {path : String} {found : Nat × Reader}
    (h : g.bound? path = some found) :
    g.candidates[found.1]? = some (some found.2) ∧ FilePath.same found.2.path path = true := by
  unfold bound? at h
  obtain ⟨⟨slot, j⟩, hmem, hslot⟩ := List.exists_of_findSome?_eq_some h
  rw [List.mem_zipIdx_iff_getElem?] at hmem
  cases slot with
  | none => cases hslot
  | some s =>
    simp only [Option.ite_none_right_eq_some, Option.some.injEq] at hslot
    obtain ⟨hsame, rfl⟩ := hslot
    exact ⟨hmem, hsame⟩

/-- The candidate that is kept is bound to the path. -/
theorem keep_spec (g : Registry) (path : String) :
    (g.keep path).2 = g ∨ ∃ i r, g.candidates[i]? = some (some r) ∧
      FilePath.same r.path path = true ∧
      (g.keep path).2 = { g.take i with current := g.current ++ [r] } := by
  unfold keep
  cases hb : g.bound? path with
  | none => exact .inl rfl
  | some found =>
    obtain ⟨hslot, hsame⟩ := bound?_spec hb
    exact .inr ⟨found.1, found.2, hslot, hsame, rfl⟩

/-- Of readers with different paths the one that is bound to the path is kept. -/
theorem keep_of_mem {g : Registry} (hd : DistinctPaths g.readers) {path : String} {r : Reader}
    (hr : r ∈ g.readers) (hs : FilePath.same r.path path = true) :
    ∃ i, g.candidates[i]? = some (some r) ∧
      (g.keep path).2 = { g.take i with current := g.current ++ [r] } := by
  unfold keep
  cases hb : g.bound? path with
  | none =>
    obtain ⟨i, hi⟩ := mem_readers.mp hr
    have hnone := List.findSome?_eq_none_iff.mp hb (some r, i) (List.mem_zipIdx_iff_getElem?.mpr hi)
    simp [hs] at hnone
  | some found =>
    obtain ⟨hslot, hsame⟩ := bound?_spec hb
    obtain rfl := hd.eq_of_same hr (mem_readers.mpr ⟨found.1, hslot⟩) hs hsame
    exact ⟨found.1, hslot, rfl⟩

/-- A candidate that is bound to a path and knows the file there is left only if the best one is bound to
another path and has a longer beginning in common with the file. -/
theorem outranked_of_mem_without {g : Registry} {path : String} {fingerprint : Fingerprint}
    {given : Reader} (hd : DistinctPaths g.readers)
    (hg : given ∈ (g.without path fingerprint).readers) (hb : FilePath.same given.path path = true)
    (hm : given.fingerprint.matchesWith fingerprint = true) :
    ∃ other ∈ g.readers, (g.best? path fingerprint).map Prod.snd = some other ∧
      other.fingerprint.matchesWith fingerprint = true ∧
      FilePath.same other.path path = false ∧
      min given.fingerprint.size fingerprint.size < min other.fingerprint.size fingerprint.size := by
  have hmem := (g.readers_without_sublist path fingerprint).subset hg
  rcases g.best?_spec path fingerprint with ⟨-, hnone⟩ | ⟨i, other, hbest?, hbest⟩
  · rw [hnone given hmem] at hm
    cases hm
  · refine ⟨other, mem_readers.mpr ⟨i, hbest.slot⟩, by rw [hbest?]; rfl, hbest.hit, ?_⟩
    have hunbound : FilePath.same other.path path = false := by
      -- else both are bound to the path, but only one of them is left
      rw [← Bool.not_eq_true]
      intro hsame
      have hparts : given.parts = other.parts :=
        (FilePath.same_iff.mp hb).trans (FilePath.same_iff.mp hsame).symm
      obtain ⟨before, after, hreaders, htake⟩ := readers_take hbest.slot
      rw [without, hbest?] at hg
      simp only [htake] at hg
      rw [DistinctPaths, hreaders, List.map_append, List.map_cons, List.nodup_middle] at hd
      refine (List.nodup_cons.mp hd).1 ?_
      rw [← List.map_append, ← hparts]
      exact List.mem_map_of_mem hg
    refine ⟨hunbound, ?_⟩
    have hrank := (Rank.atMost_iff _ _).mp (hbest.best given hmem hm)
    simp only [rank, hb, hunbound, Bool.toNat_true, Bool.toNat_false] at hrank
    omega

end Registry

namespace Follower

/-- The reader of another path knows more of a file than the one that is bound to the path. -/
structure Outranks (f : Follower) (fs : FileSystem) (path : String) (content : Bytes)
    (given other : Reader) : Prop where
  opened : fs.openPath path = .ok (.file content)
  bound : FilePath.same given.path path = true
  known : given.fingerprint.matchesWith (.ofContent f.settings.fingerprintSize content) = true
  candidate : other ∈ f.registry.readers
  unbound : FilePath.same other.path path = false
  known_other : other.fingerprint.matchesWith (.ofContent f.settings.fingerprintSize content) = true
  longer : min given.fingerprint.size (Fingerprint.ofContent f.settings.fingerprintSize content).size <
    min other.fingerprint.size (Fingerprint.ofContent f.settings.fingerprintSize content).size

/-- What resolving paths does to the candidates: some are carried over, some go on with a file, and the
others are left. -/
structure Sorts (f : Follower) (fs : FileSystem) (paths : List String) (rs : List Reader)
    (g : Registry) (kept : List Reader) : Prop where
  current : g.current = f.registry.current ++ kept
  paths : ((kept ++ rs).map Reader.parts).Subperm (paths.map FilePath.parts)
  readers : g.readers.Sublist f.registry.readers
  outranked : DistinctPaths f.registry.readers → ∀ r ∈ rs, ∀ given ∈ g.readers, ∀ content,
    fs.openPath r.path = .ok (.file content) → FilePath.same given.path r.path = true →
    given.fingerprint.matchesWith (.ofContent f.settings.fingerprintSize content) = true →
    ∃ other, f.Outranks fs r.path content given other ∧ r.offset = other.offset

/-- What is outranked among fewer candidates is outranked among all. -/
theorem Outranks.mono {f : Follower} {g : Registry} (hg : g.readers.Sublist f.registry.readers)
    {fs : FileSystem} {path : String} {content : Bytes} {given other : Reader}
    (h : ({ f with registry := g } : Follower).Outranks fs path content given other) :
    f.Outranks fs path content given other :=
  ⟨h.opened, h.bound, h.known, hg.subset h.candidate, h.unbound, h.known_other, h.longer⟩

variable {f : Follower} {fs : FileSystem} {path : String} {paths : List String} {rs kept : List Reader}
  {g g' : Registry}

/-- A path without a reader adds nothing. -/
theorem Sorts.skip (h : f.Sorts fs paths rs g kept) : f.Sorts fs (path :: paths) rs g kept :=
  ⟨h.current, h.paths.cons_right _, h.readers, h.outranked⟩

/-- A path whose reader is carried over. -/
theorem Sorts.keep {r : Reader} {i : Nat} (hslot : f.registry.candidates[i]? = some (some r))
    (hsame : FilePath.same r.path path = true)
    (h : Sorts { f with registry := { f.registry.take i with current := f.registry.current ++ [r] } }
      fs paths rs g kept) : f.Sorts fs (path :: paths) rs g (r :: kept) := by
  have hsub : ({ f.registry.take i with current := f.registry.current ++ [r] } : Registry).readers.Sublist
      f.registry.readers := Registry.readers_take_sublist hslot
  refine ⟨?_, ?_, h.readers.trans hsub, fun hd r hr given hg content ho hs hm => ?_⟩
  · rw [h.current]
    exact List.append_assoc _ _ _
  · rw [List.cons_append, List.map_cons, List.map_cons, Reader.parts, FilePath.same_iff.mp hsame]
    exact (List.subperm_cons _).mpr h.paths
  · obtain ⟨other, ho, hoffset⟩ := h.outranked (hd.sublist (hsub.map _)) r hr given hg content ho hs hm
    exact ⟨other, ho.mono hsub, hoffset⟩

/-- A path whose file a candidate or a new reader goes on with. -/
theorem Sorts.find {content : Bytes} (ho : fs.openPath path = .ok (.file content))
    (h : Sorts { f with registry :=
      f.registry.without path (.ofContent f.settings.fingerprintSize content) } fs paths rs g kept) :
    f.Sorts fs (path :: paths)
      (f.registry.successor f.settings.toReadSettings fs path
        (.ofContent f.settings.fingerprintSize content) content.length f.firstPoll
        ((f.registry.best? path (.ofContent f.settings.fingerprintSize content)).map Prod.snd) :: rs)
      g kept := by
  have hsub := f.registry.readers_without_sublist path
    (.ofContent f.settings.fingerprintSize content)
  have hpath := (f.registry.finds_successor f.settings.toReadSettings fs path
    (.ofContent f.settings.fingerprintSize content) content.length f.firstPoll
    ((f.registry.best? path (.ofContent f.settings.fingerprintSize content)).map Prod.snd)).path_eq
  refine ⟨?_, ?_, h.readers.trans hsub, fun hd r hr given hg content' ho' hs hm => ?_⟩
  · rw [h.current]
    exact congrArg (· ++ kept) (f.registry.without_frame _ _).1
  · refine (List.perm_middle.map Reader.parts).subperm.trans ?_
    rw [List.map_cons, List.map_cons, Reader.parts, hpath]
    exact (List.subperm_cons _).mpr h.paths
  · rcases List.mem_cons.mp hr with rfl | hr
    · rw [hpath] at ho' hs ⊢
      rw [ho] at ho'
      cases ho'
      obtain ⟨other, hmem, hbest, hknown, hunbound, hlonger⟩ :=
        Registry.outranked_of_mem_without hd (h.readers.subset hg) hs hm
      refine ⟨other, ⟨ho, hs, hm, hmem, hunbound, hknown, hlonger⟩, ?_⟩
      rw [hbest]
      rfl
    · obtain ⟨other, ho, hoffset⟩ :=
        h.outranked (hd.sublist (hsub.map _)) r hr given hg content' ho' hs hm
      exact ⟨other, ho.mono hsub, hoffset⟩

theorem sorts (f : Follower) (fs : FileSystem) (paths : List String) :
    ∃ kept, f.Sorts fs paths (f.resolveAll fs paths).1 (f.resolveAll fs paths).2.registry kept := by
  induction paths generalizing f with
  | nil =>
    exact ⟨[], (List.append_nil _).symm, List.Subperm.refl _, List.Sublist.refl _,
      fun _ r hr => absurd hr List.not_mem_nil⟩
  | cons path rest ih =>
    have h := f.resolves fs path
    rw [resolveAll]
    generalize f.resolvePath fs path = resolved at h
    cases h with
    | kept =>
      obtain ⟨kept, hs⟩ := ih { f with registry := (f.registry.keep path).2 }
      rcases f.registry.keep_spec path with hsame | ⟨i, r, hslot, hbound, htake⟩
      · rw [hsame] at hs ⊢
        exact ⟨kept, hs.skip⟩
      · rw [htake] at hs ⊢
        exact ⟨r :: kept, hs.keep hslot hbound⟩
    | empty =>
      obtain ⟨kept, hs⟩ := ih f
      exact ⟨kept, hs.skip⟩
    | found content ho =>
      obtain ⟨kept, hs⟩ := ih { f with
        registry := f.registry.without path (.ofContent f.settings.fingerprintSize content) }
      exact ⟨kept, hs.find ho⟩

end Follower

/-- No path is found in two spellings. -/
theorem Finder.nodup_parts (f : Finder) (fs : FileSystem) :
    ((f.find fs).map FilePath.parts).Nodup := by
  refine List.pairwise_map.mpr ((f.find_pairwise fs).imp fun {p q} hne heq => ?_)
  rw [FilePath.same_iff.mpr heq] at hne
  cases hne

namespace World

/-- The candidates of a poll are sorted, and no two of those that are kept or go on with a file have one
path. -/
theorem sorts (w : World) :
    ∃ kept, Follower.Sorts { w.follower with registry := w.follower.registry.beginPoll } w.fs
        (w.follower.settings.finder.find w.fs) w.resolved.1 w.resolved.2.registry kept ∧
      DistinctPaths (kept ++ w.resolved.1) := by
  obtain ⟨kept, hs⟩ := Follower.sorts
    { w.follower with registry := w.follower.registry.beginPoll } w.fs
    (w.follower.settings.finder.find w.fs)
  obtain ⟨found, hperm, hsub⟩ := hs.paths
  exact ⟨kept, hs, hperm.nodup_iff.mp ((w.follower.settings.finder.nodup_parts w.fs).sublist hsub)⟩

/-- A poll leaves no two readers with one path. -/
theorem distinctPaths_poll {settings : Settings} {w : World} (h : w.follower.Idle settings) :
    DistinctPaths w.poll.2.follower.registry.readers := by
  obtain ⟨kept, hs, hdistinct⟩ := w.sorts
  obtain ⟨tracked, hcurrent, hsub⟩ :=
    current_foldl_settle (w.readings.1.map (·.reading)) w.hasRead
  have hkept : w.hasRead.follower.registry.current = kept :=
    hs.current.trans (congrArg (· ++ kept) h.current)
  have hread : (w.readings.1.map (·.reading)).map (·.reader.parts) = w.resolved.1.map Reader.parts := by
    have hreaders : w.readings.1.map (·.reader) = w.resolved.1 := map_reader_passages _ _ _
    rw [← hreaders, List.map_map, List.map_map]
    refine List.map_congr_left fun x hx => ?_
    have hx' : x.reading = x.reader.readToEnd w.follower.settings.toReadSettings w.fs x.before :=
      reading_of_mem_passages hx
    change FilePath.parts x.reading.reader.path = FilePath.parts x.reader.path
    rw [hx', Reader.readToEnd, (Reader.read_keeps _ _ _ _ _).path]
  rw [readers_poll, settled, hcurrent, hkept, DistinctPaths]
  refine List.Nodup.sublist ((hsub.append_left kept).map Reader.parts) ?_
  rw [List.map_append, List.map_map]
  change (kept.map Reader.parts ++ (w.readings.1.map (·.reading)).map (·.reader.parts)).Nodup
  rw [hread, ← List.map_append]
  exact hdistinct

end World

/-- No two checkpoints are of one path. -/
def Checkpoint.Distinct (checkpoints : List Checkpoint) : Prop :=
  (checkpoints.map fun c => FilePath.parts c.path).Nodup

/-- **No two readers of a follower are ever bound to one path.** -/
theorem Follower.Reachable.distinctPaths {settings : Settings} {f : Follower}
    (h : Reachable Checkpoint.Distinct settings f) : DistinctPaths f.registry.readers := by
  induction h with
  | new store => exact List.nodup_nil
  | @load f checkpoints f' fs _ hl hadmits hload _ =>
    rw [Follower.load, hl] at hload
    cases hload
    have hreaders : (f.registry.load f.settings.toReadSettings fs checkpoints).readers =
        checkpoints.map (Reader.ofCheckpoint f.settings.toReadSettings fs) := by
      change (checkpoints.map _).filterMap id = _
      rw [List.filterMap_map]
      exact congrFun List.filterMap_eq_map checkpoints
    change DistinctPaths (f.registry.load f.settings.toReadSettings fs checkpoints).readers
    rw [DistinctPaths, hreaders, List.map_map]
    exact hadmits
  | poll fs sink hf _ => exact World.distinctPaths_poll (w := ⟨_, fs, sink⟩) hf.idle
  | persist _ ih => exact ih

end LogFollow
