import LogFollow.Proofs.Follower.Poll
import LogFollow.Proofs.Reader.Frame

/-!
# What followers reach

Between its polls a follower holds no reader that was handed back in a poll, and it keeps its settings.
Readers that a poll finds bear its number and the attributes of their path, and no reading changes
these. A poll carries a reader over unread if its file cannot be looked at.
-/
namespace LogFollow

namespace Registry

/-- What finding a reader leaves as it was. -/
structure Frame (g g' : Registry) : Prop where
  beginning : g'.startAtBeginning = g.startAtBeginning
  generation : g'.generation = g.generation

theorem Frame.refl (g : Registry) : Frame g g := ⟨rfl, rfl⟩

theorem Frame.trans {g g' g'' : Registry} (h : Frame g g') (h' : Frame g' g'') : Frame g g'' :=
  ⟨h'.beginning.trans h.beginning, h'.generation.trans h.generation⟩

theorem keep_frame (g : Registry) (path : String) : Frame g (g.keep path).2 := by
  unfold keep
  split <;> exact ⟨rfl, rfl⟩

/-- A reader that was found for a path in the poll under way. -/
structure Finds (g : Registry) (settings : ReadSettings) (fs : FileSystem) (path : String)
    (r : Reader) : Prop where
  path_eq : r.path = path
  generation : r.generation = g.generation
  fileAttributes : r.fileAttributes = settings.fileAttributes.attributes fs path

theorem finds_successor (g : Registry) (settings : ReadSettings) (fs : FileSystem) (path : String)
    (fingerprint : Fingerprint) (size : Nat) (firstPoll : Bool) (previous : Option Reader) :
    Finds g settings fs path
      (g.successor settings fs path fingerprint size firstPoll previous) := by
  cases previous <;> exact ⟨rfl, rfl, rfl⟩

end Registry

namespace Follower

/-- What becomes of a path: its reader is kept, since what stands there cannot be looked at; or there is
nothing to recognise it by; or it is a file, and the best candidate goes on with it. -/
inductive Resolves (f : Follower) (fs : FileSystem) (path : String) : Option Reader × Registry → Prop
  | kept : Resolves f fs path (none, (f.registry.keep path).2)
  | empty : Resolves f fs path (none, f.registry)
  | found (content : Bytes) : fs.openPath path = .ok (.file content) →
      Resolves f fs path
        (some (f.registry.successor f.settings.toReadSettings fs path
            (.ofContent f.settings.fingerprintSize content) content.length f.firstPoll
            ((f.registry.best? path (.ofContent f.settings.fingerprintSize content)).map
              Prod.snd)),
          f.registry.without path (.ofContent f.settings.fingerprintSize content))

theorem resolves (f : Follower) (fs : FileSystem) (path : String) :
    f.Resolves fs path (f.resolvePath fs path) := by
  cases ho : fs.openPath path with
  | error cause =>
    rw [resolvePath, ho]
    exact .kept
  | ok opened =>
    cases opened with
    | directory =>
      rw [resolvePath, ho]
      exact .kept
    | file content =>
      have hprint : (FileSystem.Opened.file content).fingerprint f.settings.fingerprintSize =
          .ok (.ofContent f.settings.fingerprintSize content) := rfl
      rw [resolvePath, ho]
      simp only [Registry.resolve, hprint, Registry.assign_eq]
      cases (Fingerprint.ofContent f.settings.fingerprintSize content).isEmpty with
      | true => exact .empty
      | false => exact .found content ho

theorem resolvePath_spec (f : Follower) (fs : FileSystem) (path : String) :
    (∀ r ∈ (f.resolvePath fs path).1, f.registry.Finds f.settings.toReadSettings fs path r) ∧
      f.registry.Frame (f.resolvePath fs path).2 := by
  have h := f.resolves fs path
  generalize f.resolvePath fs path = resolved at h
  cases h with
  | kept => exact ⟨nofun, f.registry.keep_frame path⟩
  | empty => exact ⟨nofun, .refl _⟩
  | found content ho =>
    obtain ⟨-, hb, hg⟩ := f.registry.without_frame path
      (.ofContent f.settings.fingerprintSize content)
    refine ⟨fun r hr => ?_, hb, hg⟩
    obtain rfl := Option.mem_some.mp hr
    exact f.registry.finds_successor _ _ _ _ _ _ _

theorem resolveAll_spec (f : Follower) (fs : FileSystem) (paths : List String) :
    (∀ r ∈ (f.resolveAll fs paths).1,
      f.registry.Finds f.settings.toReadSettings fs r.path r) ∧
      f.registry.Frame (f.resolveAll fs paths).2.registry := by
  induction paths generalizing f with
  | nil => exact ⟨nofun, .refl _⟩
  | cons path rest ih =>
    obtain ⟨hfound, hframe⟩ := f.resolvePath_spec fs path
    obtain ⟨hrest, hframe'⟩ := ih { f with registry := (f.resolvePath fs path).2 }
    refine ⟨fun r hr => ?_, hframe.trans hframe'⟩
    rcases List.mem_append.mp hr with hr | hr
    · have h := hfound r (Option.mem_toList.mp hr)
      exact h.path_eq.symm ▸ h
    · obtain ⟨hp, hg, ha⟩ := hrest r hr
      exact ⟨hp, hg.trans hframe.generation, ha⟩

/-- Each path with a file that has bytes gets its reader. -/
theorem map_path_resolveAll (f : Follower) (hn : 0 < f.settings.fingerprintSize) {fs : FileSystem}
    {paths : List String}
    (ho : ∀ path ∈ paths, ∃ content, fs.openPath path = .ok (.file content) ∧ content ≠ []) :
    (f.resolveAll fs paths).1.map (·.path) = paths := by
  induction paths generalizing f with
  | nil => rfl
  | cons path rest ih =>
    obtain ⟨content, hopen, hne⟩ := ho path List.mem_cons_self
    have hrest := ih { f with registry := (f.resolvePath fs path).2 } hn
      fun p hp => ho p (List.mem_cons_of_mem _ hp)
    rw [resolveAll]
    simp only [List.map_append, hrest]
    rw [resolvePath_file hn hopen, if_neg hne]
    exact congrArg (· :: rest) (f.registry.finds_successor _ _ _ _ _ _ _).path_eq

/-- The followers that settings lead to, from any store: a follower takes up what is stored, if that is
admitted, makes polls of any file systems with any sinks, and stores how far it has come. A sink may be
cancelled in front of any item of any of the files, so also when a file has been read and the next has
not. -/
inductive Reachable (admits : List Checkpoint → Prop) (settings : Settings) : Follower → Prop
  | new (store : CheckpointStore) : Reachable admits settings (new settings store)
  | load {f : Follower} {checkpoints : List Checkpoint} {f' : Follower} (fs : FileSystem) :
    Reachable admits settings f → f.store.load f.settings.id = .ok checkpoints →
      admits checkpoints → f.load fs = .ok f' → Reachable admits settings f'
  | poll {f : Follower} (fs : FileSystem) (sink : Sink) : Reachable admits settings f →
      Reachable admits settings (World.poll ⟨f, fs, sink⟩).2.follower
  | persist {f : Follower} : Reachable admits settings f → Reachable admits settings f.persist

theorem Reachable.poll_snd {admits : List Checkpoint → Prop} {settings : Settings} {w : World}
    (h : w.follower.Reachable admits settings) : w.poll.2.follower.Reachable admits settings :=
  .poll w.fs w.sink h

/-- A follower between its polls. -/
structure Idle (settings : Settings) (f : Follower) : Prop where
  settings_eq : f.settings = settings
  beginning : f.registry.startAtBeginning = decide (settings.startAt = .beginning)
  current : f.registry.current = []

end Follower

namespace World

/-- The readers that a poll carries over unread, since their files cannot be looked at. -/
def kept (w : World) : List Reader := w.resolved.2.registry.current

/-- A poll leaves the follower idle. -/
theorem poll_idle (w : World) {settings : Settings} (h : w.follower.Idle settings) :
    w.poll.2.follower.Idle settings := by
  obtain ⟨hs, -, -, hb, -, -⟩ := foldl_settle_frame (w.readings.1.map (·.reading)) w.hasRead
  have hresolved := (Follower.resolveAll_spec
    { w.follower with registry := w.follower.registry.beginPoll } w.fs
    (w.follower.settings.finder.find w.fs)).2.beginning
  rw [poll_snd]
  exact ⟨hs.trans (w.resolved_settings.trans h.settings_eq),
    hb.trans (hresolved.trans h.beginning), rfl⟩

theorem firstPoll_foldl_settle (readings : List Reading) (w : World) :
    (readings.foldl settle w).follower.firstPoll = w.follower.firstPoll := by
  induction readings generalizing w with
  | nil => rfl
  | cons reading rest ih =>
    rw [List.foldl_cons, ih, settle]
    split
    · split <;> rfl
    · rfl

/-- Whatever a poll finds, the next one is not the first. -/
theorem firstPoll_poll (w : World) : w.poll.2.follower.firstPoll = false := by
  rw [poll_snd]
  exact firstPoll_foldl_settle (w.readings.1.map (·.reading)) w.hasRead

/-- The readers of a poll are those that were carried over unread, and those that were handed back. -/
theorem current_foldl_settle (readings : List Reading) (w : World) :
    ∃ tracked, (readings.foldl settle w).follower.registry.current =
        w.follower.registry.current ++ tracked ∧
      tracked.Sublist (readings.map (·.reader)) := by
  induction readings generalizing w with
  | nil => exact ⟨[], (List.append_nil _).symm, .refl _⟩
  | cons reading rest ih =>
    obtain ⟨tracked, hc, hs⟩ := ih (settle w reading)
    have hcurrent : (settle w reading).follower.registry.current = w.follower.registry.current ∨
        (settle w reading).follower.registry.current =
          w.follower.registry.current ++ [reading.reader] := by
      unfold settle
      split
      · split <;> exact .inl rfl
      · exact .inr rfl
    rcases hcurrent with h | h
    · exact ⟨tracked, by rw [List.foldl_cons, hc, h], hs.cons _⟩
    · exact ⟨reading.reader :: tracked, by rw [List.foldl_cons, hc, h, List.append_assoc]; rfl,
        hs.cons_cons _⟩

theorem readers_poll (w : World) :
    w.poll.2.follower.registry.readers = w.settled.follower.registry.current := by
  rw [poll_snd]
  change (List.map some _).filterMap id = _
  rw [List.filterMap_map]
  exact List.filterMap_some

theorem candidates_poll (w : World) :
    w.poll.2.follower.registry.candidates = w.poll.2.follower.registry.readers.map some := by
  rw [readers_poll, poll_snd]
  rfl

theorem generation_poll (w : World) :
    w.poll.2.follower.registry.generation = w.resolved.2.registry.generation := by
  obtain ⟨-, -, -, -, hg, -⟩ := foldl_settle_frame (w.readings.1.map (·.reading)) w.hasRead
  rw [poll_snd]
  exact hg

/-- A reader that was not carried over unread bears the number of the poll, and the attributes of its
path. -/
theorem found_of_mem_poll {w : World} {r : Reader} (h : r ∈ w.poll.2.follower.registry.readers) :
    r ∈ w.kept ∨ r.generation = w.poll.2.follower.registry.generation ∧
      r.fileAttributes = w.follower.settings.fileAttributes.attributes w.fs r.path := by
  obtain ⟨tracked, hcurrent, hsub⟩ :=
    current_foldl_settle (w.readings.1.map (·.reading)) w.hasRead
  rw [readers_poll, settled, hcurrent] at h
  rcases List.mem_append.mp h with h | h
  · exact .inl h
  · right
    obtain ⟨reading, hm, rfl⟩ := List.mem_map.mp (hsub.subset h)
    obtain ⟨x, hx, rfl⟩ := List.mem_map.mp hm
    have hreader : x.reader ∈ w.resolved.1 := by
      have hmap := List.mem_map_of_mem (f := Passage.reader) hx
      rwa [readings, map_reader_passages] at hmap
    obtain ⟨hfound, hframe⟩ := Follower.resolveAll_spec
      { w.follower with registry := w.follower.registry.beginPoll } w.fs
      (w.follower.settings.finder.find w.fs)
    obtain ⟨-, hg, ha⟩ := hfound x.reader hreader
    obtain ⟨hkp, hkg, hka⟩ := x.reader.read_keeps w.follower.settings.toReadSettings w.fs x.before
      w.follower.settings.deleteAfterRead
    have hread : x.reading = x.reader.readToEnd w.follower.settings.toReadSettings w.fs x.before :=
      reading_of_mem_passages hx
    rw [generation_poll, hread]
    refine ⟨hkg.trans (hg.trans hframe.generation.symm), hka.trans (ha.trans ?_)⟩
    exact congrArg _ hkp.symm

end World

namespace Follower

theorem Reachable.idle {admits : List Checkpoint → Prop} {settings : Settings} {f : Follower}
    (h : Reachable admits settings f) : f.Idle settings := by
  induction h with
  | new store => exact ⟨rfl, rfl, rfl⟩
  | @load f checkpoints f' fs _ hl _ hload ih =>
    rw [Follower.load, hl] at hload
    cases hload
    exact ⟨ih.settings_eq, ih.beginning, ih.current⟩
  | poll fs sink _ ih => exact World.poll_idle _ ih
  | persist _ ih => exact ⟨ih.settings_eq, ih.beginning, ih.current⟩

end Follower

end LogFollow
