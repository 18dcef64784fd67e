import LogFollow.Proofs.Follower.Following

/-!
# Following files over rotations

Between the polls of a run files are made, grow, are moved, and are copied and written anew. As long as
fingerprints tell the files apart, each reader goes on with its own file, wherever that is now. What is
logged of a file is then a beginning of its lines, and all of them once the sink accepts them.
-/
namespace LogFollow

namespace Follower

variable {ι : Type} [DecidableEq ι]

omit [DecidableEq ι] in
/-- The fingerprint of a file matches that of a reader just if it is this file that the reader has
read. -/
def Unambiguous (settings : Settings) (before files : Files ι) (f : Follower) : Prop :=
  ∀ r ∈ f.registry.readers, ∀ path id bytes, files.owner path = some id →
    files.content id = some bytes →
    ((Fingerprint.ofContent settings.fingerprintSize bytes).matchesWith r.fingerprint = true ↔
      before.owner r.path = some id)

/-- What happens between two polls, and what the second of them finds. -/
structure Turn (settings : Settings) (before files : Files ι) (w : World) : Prop where
  changes : Files.Changes before files
  shown : Files.Shows settings.finder w.fs before files
  fit : files.Fit settings.maxLogSize
  unambiguous : Unambiguous settings before files w.follower

variable {settings : Settings} {before files : Files ι} {log : ι → List Event} {w : World}

/-- The best candidate for a file is the reader that has read it before. -/
theorem Turn.best (h : Turn settings before files w)
    (hf : Follows settings before log w.follower) {done : List String} {path : String} {id : ι}
    {bytes : Bytes} (ho : files.owner path = some id) (hc : files.content id = some bytes)
    (hpath : path ∉ done) {g : Registry}
    (hdone : ∀ p ∈ done, ∃ id, files.owner p = some id)
    (hg : Remains (priorOf before files w.follower) done w.follower.registry.beginPoll g) :
    (g.best? path (.ofContent settings.fingerprintSize bytes)).map Prod.snd =
      priorOf before files w.follower path := by
  have hreaders := hg.readers (List.Nodup.of_map _ hf.distinct)
  have hown : ∀ r ∈ w.follower.registry.readers,
      (r.fingerprint.matchesWith (.ofContent settings.fingerprintSize bytes) = true ↔
        before.owner r.path = some id) := by
    intro r hr
    rw [Fingerprint.matchesWith_comm]
    exact h.unambiguous r hr path id bytes ho hc
  rcases g.best?_spec path (.ofContent settings.fingerprintSize bytes) with
    ⟨hb, hnone⟩ | ⟨i, r, hb, hbest⟩
  · rw [hb]
    cases hp : priorOf before files w.follower path with
    | none => rfl
    | some r =>
      obtain ⟨hr, hbefore⟩ := (hf.priorOf_eq_some_iff ho).mp hp
      -- The reader is a candidate still: the paths in `done` are those of other files.
      have hleft : r ∈ g.readers := by
        refine (hreaders r).mpr ⟨hr, fun p hp' hprior => ?_⟩
        obtain ⟨id', ho'⟩ := hdone p hp'
        have hbefore' := ((hf.priorOf_eq_some_iff ho').mp hprior).2
        obtain rfl : id = id' := Option.some.inj (hbefore.symm.trans hbefore')
        rw [h.changes.evolves hf.valid |>.valid.injective p path id ho' ho] at hp'
        exact hpath hp'
      have hmatch := (hown r hr).mpr hbefore
      rw [hnone r hleft] at hmatch
      cases hmatch
  · have hr : r ∈ w.follower.registry.readers :=
      ((hreaders r).mp (Registry.mem_readers.mpr ⟨i, hbest.slot⟩)).1
    rw [hb]
    exact ((hf.priorOf_eq_some_iff ho).mpr ⟨hr, (hown r hr).mp hbest.hit⟩).symm

theorem Turn.recognises (h : Turn settings before files w) (hs : settings.Thorough)
    (hf : Follows settings before log w.follower) :
    Recognises w.fs (priorOf before files w.follower)
      { w.follower with registry := w.follower.registry.beginPoll }
      (settings.finder.find w.fs) := by
  have hevolves := h.changes.evolves hf.valid
  have hknown := fun path (hp : path ∈ settings.finder.find w.fs) =>
    h.shown.of_mem_find hevolves.valid hp
  refine (recognises_iff (R := fun _ _ => True) (by rw [hf.settings_eq]; exact hs.recognises)
    (fun path hp => ?_) ?_).mpr (List.pairwise_of_forall fun _ _ => trivial)
  · obtain ⟨_, bytes, _, _, hopen⟩ := hknown path hp
    exact ⟨bytes, hopen⟩
  · intro done path rest hsplit g hg content hcontent
    rw [hsplit] at hknown
    obtain ⟨id, bytes, ho, hc, hopen⟩ := hknown path (by simp)
    rw [hopen] at hcontent
    cases hcontent
    refine ⟨fun _ _ _ => trivial, fun _ => ?_⟩
    rw [hf.settings_eq]
    refine h.best hf ho hc (Finder.split_spec hsplit).1 (fun p hp => ?_) hg
    obtain ⟨id, _, ho, _⟩ := hknown p (List.mem_append_left _ hp)
    exact ⟨id, ho⟩

/-- A reader whose file is gone, or has gone on with another reader, finds nothing of it at its old
path. -/
theorem Turn.quiet (h : Turn settings before files w)
    (hf : Follows settings before log w.follower) {r : Reader}
    (hr : r ∈ w.follower.registry.readers)
    (hprior : ∀ path ∈ settings.finder.find w.fs, priorOf before files w.follower path ≠ some r)
    (sink : Sink) :
    (r.retire settings.toReadSettings w.fs sink).sink = sink := by
  obtain ⟨id, _, _, hbefore, _⟩ := hf.stands r hr
  unfold Reader.retire
  cases hopen : w.fs.openPath r.path with
  | error cause => cases cause <;> rfl
  | ok opened =>
    cases opened with
    | directory => rfl
    | file bytes =>
      change (if (Fingerprint.ofContent settings.fingerprintSize bytes).matchesWith
        r.fingerprint = true then _ else _ : Reading).sink = sink
      have hno : ¬ (Fingerprint.ofContent settings.fingerprintSize bytes).matchesWith
          r.fingerprint = true := by
        intro hmatch
        cases ho : files.owner r.path with
        | none => exact h.shown.gone r.path id hbefore ho bytes hopen
        | some id' =>
          obtain ⟨bytes', hc⟩ := (h.changes.evolves hf.valid).valid.exists_content ho
          have hopen' := h.shown.opens r.path id' bytes' ho hc
          rw [hopen] at hopen'
          cases hopen'
          have hbefore' := (h.unambiguous r hr r.path id' bytes ho hc).mp hmatch
          exact hprior r.path ((h.shown.found r.path).mpr ⟨id', ho⟩)
            ((hf.priorOf_eq_some_iff ho).mpr ⟨hr, hbefore'⟩)
      rw [if_neg hno]

theorem Turn.ready (h : Turn settings before files w) (hs : settings.Thorough)
    (hf : Follows settings before log w.follower) : World.Ready settings before files log w where
  follows := hf
  evolves := h.changes.evolves hf.valid
  shown := h.shown
  fit := h.fit
  recognises := h.recognises hs hf
  quiet _ hr hprior sink := h.quiet hf hr hprior sink

/-- **Over any rotations each line of each file is logged once**, and in order, whatever the sinks of
the polls do. -/
theorem Run.logs_each_line_once (hs : settings.Thorough)
    (h : Run (Turn settings) settings before w.follower log) (ht : Turn settings before files w) :
    w.Logged settings files log :=
  (ht.ready hs (h.follows hs fun _ _ _ _ ht hf => ht.ready hs hf)).logged hs

/-! ### Two files that swap their names -/

open Function (update)

/-- The files `x` and `y`, each with one line. -/
def twoFiles : Files Bool where
  owner := update (update (fun _ => none) "a.log" (some false)) "b.log" (some true)
  content := update (update (fun _ => none) false (some [0x78, 0x0A])) true (some [0x79, 0x0A])

/-- The files have swapped their names, by way of a third one. -/
def swappedFiles : Files Bool where
  owner := update (update (update (update (update (update twoFiles.owner "a.log" none)
    "c.log" (some false)) "b.log" none) "a.log" (some true)) "c.log" none) "b.log" (some false)
  content := twoFiles.content

/-- A poll whose sink refuses all events. -/
def refusedPoll : World where
  follower := new .logs ⟨false, []⟩
  fs := .twoLogs [0x78, 0x0A] [0x79, 0x0A]
  sink := { reaction := fun _ => .refuse }

/-- The poll after it, with a healthy sink. -/
def swappedPoll : World where
  follower := refusedPoll.poll.2.follower
  fs := .twoLogs [0x79, 0x0A] [0x78, 0x0A]
  sink := .healthy

theorem twoFiles_owner (path : String) (id : Bool) : twoFiles.owner path = some id ↔
    path = "a.log" ∧ id = false ∨ path = "b.log" ∧ id = true := by
  simp only [twoFiles, Function.update_apply]
  grind

theorem swappedFiles_owner (path : String) (id : Bool) : swappedFiles.owner path = some id ↔
    path = "a.log" ∧ id = true ∨ path = "b.log" ∧ id = false := by
  simp only [swappedFiles, twoFiles, Function.update_apply]
  grind

theorem twoFiles_content {id : Bool} {bytes : Bytes} (h : twoFiles.content id = some bytes) :
    bytes = bif id then [0x79, 0x0A] else [0x78, 0x0A] := by
  cases id with
  | false => exact (Option.some.inj h).symm
  | true => exact (Option.some.inj h).symm

theorem turn_refusedPoll : Turn .logs .nothing twoFiles refusedPoll where
  changes := .tail (.single (.create "a.log" false [0x78, 0x0A] rfl rfl))
    (.create "b.log" true [0x79, 0x0A] rfl rfl)
  shown := Files.shows_twoLogs twoFiles_owner rfl rfl fun _ _ h => nomatch h
  fit := Files.fit_twoLogs twoFiles_owner rfl rfl ⟨by decide, by decide⟩ ⟨by decide, by decide⟩
  unambiguous _ h := nomatch h

/-- What is logged of the files when their names are swapped. -/
def refusedLog (id : Bool) : List Event := [] ++ refusedPoll.gained twoFiles id

theorem run_refusedPoll : Run (Turn .logs) .logs twoFiles swappedPoll.follower refusedLog :=
  .poll twoFiles refusedPoll (.start ⟨false, []⟩ refusedPoll.fs _ rfl rfl) turn_refusedPoll

theorem turn_swappedPoll : Turn .logs twoFiles swappedFiles swappedPoll where
  changes := ((Relation.ReflTransGen.single
      (.rename "a.log" "c.log" false rfl (by decide))).tail
      (.rename "b.log" "a.log" true rfl (by decide))).tail
      (.rename "c.log" "b.log" false rfl (by decide))
  shown := Files.shows_twoLogs swappedFiles_owner rfl rfl fun path id h =>
    ((twoFiles_owner path id).mp h).imp And.left And.left
  fit := Files.fit_twoLogs swappedFiles_owner rfl rfl ⟨by decide, by decide⟩
    ⟨by decide, by decide⟩
  unambiguous r hr path id bytes _ hc := by
    have hf := run_refusedPoll.follows Settings.logs_thorough
      fun _ _ _ _ ht hf => ht.ready Settings.logs_thorough hf
    obtain ⟨id', front, rest, howner, hcontent, -, hst⟩ := hf.stands r hr
    rw [hst.fingerprint, howner, twoFiles_content hc, twoFiles_content hcontent]
    cases id <;> cases id' <;> decide

/-- All lines are logged, though none was when the files were found, and though their names are not
what they were. -/
theorem logs_each_line_once_of_swap : Settings.logs.Thorough ∧
    Run (Turn .logs) .logs twoFiles swappedPoll.follower refusedLog ∧
    Turn .logs twoFiles swappedFiles swappedPoll ∧
    swappedPoll.Logged .logs swappedFiles refusedLog :=
  ⟨Settings.logs_thorough, run_refusedPoll, turn_swappedPoll,
    Run.logs_each_line_once Settings.logs_thorough run_refusedPoll turn_swappedPoll⟩

end Follower

end LogFollow
