import LogFollow.Proofs.Follower.Following
import LogFollow.Proofs.Follower.Reachable
import LogFollow.Proofs.Reader.Measures
import LogFollow.Proofs.Rules

/-!
# Readers know their files

At the end of a poll each reader that the poll has found knows the file at its path as it is: its
fingerprint is the beginning of the file, it has noted the size, and it stands in the file. The poll may
begin with any readers, those of checkpoints that are wrong included, and its sink may do what it likes.
-/
namespace LogFollow

namespace Follower

/-- A reader that is found has the fingerprint of the file at its path. -/
theorem fingerprint_of_mem_resolveAll (f : Follower) (fs : FileSystem) (paths : List String) :
    ∀ r ∈ (f.resolveAll fs paths).1, ∃ content, fs.openPath r.path = .ok (.file content) ∧
      r.fingerprint = .ofContent f.settings.fingerprintSize content := by
  induction paths generalizing f with
  | nil => exact fun r hr => absurd hr List.not_mem_nil
  | cons path rest ih =>
    intro r hr
    have h := f.resolves fs path
    rw [resolveAll] at hr
    generalize f.resolvePath fs path = resolved at h hr
    rcases List.mem_append.mp hr with hfirst | hrest
    · cases h with
      | kept => cases hfirst
      | empty => cases hfirst
      | found content ho =>
        obtain rfl := List.mem_singleton.mp hfirst
        refine ⟨content, ?_, ?_⟩
        · rw [(f.registry.finds_successor _ _ _ _ _ _ _).path_eq]
          exact ho
        · cases f.registry.best? path (.ofContent f.settings.fingerprintSize content) <;> rfl
    · exact ih { f with registry := resolved.2 } r hrest

end Follower

namespace World

/-- A poll that deletes no file leaves the file system as it was. -/
theorem fs_poll {w : World} (hd : w.follower.settings.deleteAfterRead = false) : w.poll.2.fs = w.fs := by
  have hkeeps : w.hasRead.follower.settings.deleteAfterRead = false := by
    rw [← hd, ← w.resolved_settings]
    rfl
  rw [poll_snd, settled, foldl_settle _ hkeeps]
  rfl

/-- The readings of a poll measure the files. -/
theorem measures_readings {w : World} (hr : w.follower.settings.framing.CutsFront) {x : Passage}
    (hx : x ∈ w.readings.1) : ∃ content, w.fs.openPath x.reader.path = .ok (.file content) ∧
      x.reading.reader.Measures w.follower.settings.fingerprintSize content := by
  obtain ⟨content, ho, hf⟩ := Follower.fingerprint_of_mem_resolveAll _ _ _ x.reader
    (reader_mem_of_mem_readings hx)
  have hreading : x.reading = x.reader.readToEnd w.follower.settings.toReadSettings w.fs x.before :=
    reading_of_mem_passages hx
  refine ⟨content, ho, ?_⟩
  rw [hreading]
  exact Reader.measures_read hr ho hf x.before _

end World

namespace Follower

/-- **At the end of every poll the readers that it has found know their files.** However the follower has
come to the poll, its readers are those that were carried over unread and those that the poll has found;
each of the latter has just the first bytes of the file at its path as its fingerprint, knows the size of
the file, and does not stand behind its end. -/
theorem Reachable.poll_measures {c : Config} {settings : Settings} (hbuild : c.build = .ok settings)
    (hkeeps : c.deleteAfterRead = false) {w : World}
    (h : w.follower.Reachable (fun _ => True) settings) :
    ∃ tracked, w.poll.2.follower.registry.readers = w.kept ++ tracked ∧
      tracked.map (·.path) = w.resolved.1.map (·.path) ∧
      ∀ r ∈ tracked, ∃ content, w.poll.2.fs.openPath r.path = .ok (.file content) ∧
        r.fingerprint.bytes = content.take (min content.length settings.fingerprintSize) ∧
        r.lastSeenSize = content.length ∧ r.offset ≤ content.length := by
  have hsettings := h.idle.settings_eq
  have hd : w.follower.settings.deleteAfterRead = false := by
    rw [hsettings, (Config.built_of_build hbuild).deleteAfterRead, hkeeps]
  have hr : w.follower.settings.framing.CutsFront := by
    rw [hsettings]
    exact (Config.lawful_of_build hbuild).cutsFront
  have hpath {x : Passage} (hx : x ∈ w.readings.1) : x.reading.reader.path = x.reader.path := by
    have hreading : x.reading = x.reader.readToEnd w.follower.settings.toReadSettings w.fs x.before :=
      reading_of_mem_passages hx
    rw [hreading, Reader.readToEnd, (Reader.read_keeps _ _ _ _ _).path]
  refine ⟨w.readings.1.map fun x : Passage => x.reading.reader, (World.polled hd).readers, ?_,
    fun r hmem => ?_⟩
  · have hreaders : w.readings.1.map (·.reader) = w.resolved.1 := map_reader_passages _ _ _
    rw [← hreaders, List.map_map, List.map_map]
    exact List.map_congr_left fun x hx => hpath hx
  · obtain ⟨x, hx, rfl⟩ := List.mem_map.mp hmem
    obtain ⟨content, ho, hm⟩ := World.measures_readings hr hx
    refine ⟨content, ?_, ?_, hm.lastSeenSize, hm.offset⟩
    · rw [World.fs_poll hd, hpath hx]
      exact ho
    · rw [hm.fingerprint, hsettings, Nat.min_comm]
      exact List.take_eq_take_min

end Follower

/-- The configuration of a follower of the log files in the home directory. -/
def Config.logs : Config where
  id := "logs"
  included := ["*.log"]
  startAt := .beginning
  maxLogSize := 100
  maxConcurrentFiles := 1024

/-- A poll of two log files, one of which has become shorter since it was read, with a sink that refuses
all events. -/
def truncatedPoll : World where
  follower := (World.ofLogs [0x78, 0x0A, 0x79, 0x0A] [0x7A, 0x0A]).poll.2.follower
  fs := .twoLogs [0x78] [0x7A, 0x0A]
  sink := { reaction := fun _ => .refuse }

namespace Follower

theorem poll_measures_truncatedPoll :
    Config.logs.build = .ok .logs ∧ Config.logs.deleteAfterRead = false ∧
      truncatedPoll.follower.Reachable (fun _ => True) .logs ∧
      ∃ tracked, truncatedPoll.poll.2.follower.registry.readers = truncatedPoll.kept ++ tracked ∧
        tracked.map (·.path) = ["a.log", "b.log"] ∧
        ∀ r ∈ tracked, ∃ content, truncatedPoll.poll.2.fs.openPath r.path = .ok (.file content) ∧
          r.fingerprint.bytes = content.take (min content.length 1000) ∧
          r.lastSeenSize = content.length ∧ r.offset ≤ content.length := by
  have hbuild : Config.logs.build = .ok .logs := by rfl
  have hreachable : truncatedPoll.follower.Reachable (fun _ => True) .logs :=
    .poll _ _ (.new ⟨false, []⟩)
  have hresolved : truncatedPoll.resolved.1.map (·.path) = ["a.log", "b.log"] := by
    obtain ⟨hoa, hob⟩ := FileSystem.openPath_twoLogs [0x78] [0x7A, 0x0A]
    have hsettings := hreachable.idle.settings_eq
    have hfound : truncatedPoll.follower.settings.finder.find truncatedPoll.fs = ["a.log", "b.log"] := by
      rw [hsettings]
      exact Finder.find_twoLogs _ _
    rw [World.resolved, hfound]
    refine map_path_resolveAll _ ?_ fun path hp => ?_
    · change 0 < truncatedPoll.follower.settings.fingerprintSize
      rw [hsettings]
      decide
    · simp only [List.mem_cons, List.not_mem_nil, or_false] at hp
      rcases hp with rfl | rfl
      · exact ⟨_, hoa, List.cons_ne_nil _ _⟩
      · exact ⟨_, hob, List.cons_ne_nil _ _⟩
  obtain ⟨tracked, hreaders, hpaths, hm⟩ := Reachable.poll_measures hbuild rfl hreachable
  exact ⟨hbuild, rfl, hreachable, tracked, hreaders, hpaths.trans hresolved, hm⟩

end Follower

end LogFollow
