import LogFollow.Proofs.Checkpoint.Codec
import LogFollow.Proofs.Follower.Following
import LogFollow.Proofs.Follower.Reachable

/-!
# A restart cannot be told

A follower that takes up what another one has stored has made no polls, while the other one has made
many. The number of the polls is the only thing in which their readers differ, and they differ in it by
the same amount. Candidates are compared by this number, which a shift does not change, and nothing else
looks at it. Two such followers therefore do the same in every poll.

A checkpoint gives the path back as it was, since paths are texts. The path of a file whose name is no text
is not: it is stored with replacement characters, and what a restart makes of that is left out here.
-/
namespace LogFollow

/-! ## Registries that have made more polls -/

namespace Registry

/-- The registry, had it made `n` polls more. -/
def later (n : Nat) (g : Registry) : Registry :=
  { g with
    candidates := g.candidates.map (Option.map (Reader.later n))
    current := g.current.map (Reader.later n)
    generation := g.generation + n }

theorem filterMap_id_later (n : Nat) (slots : List (Option Reader)) :
    (slots.map (Option.map (Reader.later n))).filterMap id =
      (slots.filterMap id).map (Reader.later n) := by
  rw [List.filterMap_map, List.map_filterMap]
  rfl

theorem readers_later (n : Nat) (g : Registry) :
    (g.later n).readers = g.readers.map (Reader.later n) :=
  filterMap_id_later n g.candidates

/-- The checkpoint of a reader does not tell in which poll it was found. -/
theorem checkpoints_later (n : Nat) (g : Registry) : (g.later n).checkpoints = g.checkpoints := by
  rw [checkpoints, readers_later, List.map_map]
  rfl

theorem beginPoll_later (n : Nat) (g : Registry) : (g.later n).beginPoll = g.beginPoll.later n := by
  unfold beginPoll later
  simp only [Nat.add_right_comm]

theorem take_later (n : Nat) (g : Registry) (slot : Nat) :
    (g.later n).take slot = (g.take slot).later n := by
  unfold take later
  simp only [List.map_set, Option.map_none]

variable {path : String} {fingerprint : Fingerprint}

theorem atMost_later (n : Nat) (r r' : Reader) :
    (rank path fingerprint (r.later n)).atMost (rank path fingerprint (r'.later n)) =
      (rank path fingerprint r).atMost (rank path fingerprint r') := by
  rw [Bool.eq_iff_iff, Rank.atMost_iff, Rank.atMost_iff]
  simp only [rank, Reader.later, Nat.add_le_add_iff_right]

theorem better_later (n : Nat) (best : Option (Nat × Reader)) (next : Nat × Reader) :
    better path fingerprint (best.map (Prod.map id (Reader.later n)))
        (Prod.map id (Reader.later n) next) =
      (better path fingerprint best next).map (Prod.map id (Reader.later n)) := by
  cases best with
  | none => rfl
  | some b =>
    simp only [better, Option.map_some, Prod.map_snd, atMost_later]
    split <;> rfl

theorem foldl_better_later (n : Nat) (found : List (Nat × Reader)) (best : Option (Nat × Reader)) :
    (found.map (Prod.map id (Reader.later n))).foldl (better path fingerprint)
        (best.map (Prod.map id (Reader.later n))) =
      (found.foldl (better path fingerprint) best).map (Prod.map id (Reader.later n)) := by
  induction found generalizing best with
  | nil => rfl
  | cons next rest ih => rw [List.map_cons, List.foldl_cons, better_later, ih, List.foldl_cons]

theorem matching_later (n : Nat) (slots : List (Option Reader)) :
    matching fingerprint (slots.map (Option.map (Reader.later n))) =
      (matching fingerprint slots).map (Prod.map id (Reader.later n)) := by
  rw [matching, matching, List.zipIdx_map, List.filterMap_map, List.map_filterMap]
  congr 1
  funext ⟨slot, i⟩
  cases slot with
  | none => rfl
  | some r =>
    change (if r.fingerprint.matchesWith fingerprint then some (i, r.later n) else none) =
      (if r.fingerprint.matchesWith fingerprint then some (i, r) else none).map _
    split <;> rfl

theorem best?_later (n : Nat) (g : Registry) (path : String) (fingerprint : Fingerprint) :
    (g.later n).best? path fingerprint =
      (g.best? path fingerprint).map (Prod.map id (Reader.later n)) := by
  rw [best?, best?]
  change (matching fingerprint (g.candidates.map _)).foldl _ _ = _
  rw [matching_later]
  exact foldl_better_later n _ none

/-- A registry that starts at the beginning does so in every poll. -/
theorem assign_later (n : Nat) {g : Registry} (hb : g.startAtBeginning = true)
    (settings : ReadSettings) (fs : FileSystem) (path : String) (fingerprint : Fingerprint)
    (size : Nat) (firstPoll firstPoll' : Bool) :
    (g.later n).assign settings fs path fingerprint size firstPoll' =
      ((g.assign settings fs path fingerprint size firstPoll).1.later n,
        (g.assign settings fs path fingerprint size firstPoll).2.later n) := by
  rw [assign, assign, best?_later]
  cases g.best? path fingerprint with
  | none =>
    have hoffset : (g.later n).firstOffset firstPoll' size = g.firstOffset firstPoll size := by
      rw [firstOffset, firstOffset]
      simp only [later, hb, Bool.true_or, if_true]
    simp only [Option.map_none, hoffset]
    rfl
  | some found =>
    obtain ⟨slot, previous⟩ := found
    simp only [Option.map_some, Prod.map_apply, id_eq, take_later]
    rfl

theorem bound?_later (n : Nat) (g : Registry) (path : String) :
    (g.later n).bound? path = (g.bound? path).map (Prod.map id (Reader.later n)) := by
  rw [bound?, bound?]
  change (g.candidates.map _).zipIdx.findSome? _ = _
  rw [List.zipIdx_map, List.findSome?_map, List.map_findSome?]
  congr 1
  funext ⟨slot, i⟩
  cases slot with
  | none => rfl
  | some r =>
    change (if FilePath.same r.path path then some (i, r.later n) else none) =
      (if FilePath.same r.path path then some (i, r) else none).map _
    split <;> rfl

theorem keep_later (n : Nat) (g : Registry) (path : String) :
    (g.later n).keep path = ((g.keep path).1, (g.keep path).2.later n) := by
  rw [keep, keep, bound?_later]
  cases g.bound? path with
  | none => rfl
  | some found =>
    obtain ⟨slot, r⟩ := found
    simp only [Option.map_some, Prod.map_apply, id_eq, take_later]
    simp only [later, List.map_append, List.map_cons, List.map_nil]

theorem endPoll_later (n : Nat) (g : Registry) :
    (g.later n).endPoll = (g.endPoll.1.map (Reader.later n), g.endPoll.2.later n) := by
  rw [endPoll, endPoll, readers_later]
  simp only [later, List.map_map, List.map_nil]
  rfl

end Registry

/-! ## Followers that have made more polls -/

namespace Follower

/-- The follower, had it made `n` polls more. Whether a poll is the first one counts only where files
are not read from their beginning. -/
def later (n : Nat) (firstPoll : Bool) (f : Follower) : Follower :=
  { f with registry := f.registry.later n, firstPoll }

theorem resolvePath_later (n : Nat) (firstPoll : Bool) {f : Follower}
    (hb : f.registry.startAtBeginning = true) (fs : FileSystem) (path : String) :
    (f.later n firstPoll).resolvePath fs path =
      ((f.resolvePath fs path).1.map (Reader.later n), (f.resolvePath fs path).2.later n) := by
  unfold resolvePath
  rcases fs.openPath path with cause | opened
  · simp only [later, Registry.keep_later, Option.map_none]
  · simp only [Registry.resolve, later]
    rcases opened.fingerprint f.settings.fingerprintSize with cause | fingerprint
    · simp only [Registry.keep_later, Option.map_none]
    · by_cases he : fingerprint.isEmpty = true
      · simp only [he, if_true, Option.map_none]
      · simp only [he, if_false, Bool.false_eq_true, Option.map_some,
          Registry.assign_later n hb f.settings.toReadSettings fs path fingerprint opened.size
            f.firstPoll firstPoll]

theorem resolveAll_later (n : Nat) (firstPoll : Bool) {f : Follower}
    (hb : f.registry.startAtBeginning = true) (fs : FileSystem) (paths : List String) :
    (f.later n firstPoll).resolveAll fs paths =
      ((f.resolveAll fs paths).1.map (Reader.later n),
        (f.resolveAll fs paths).2.later n firstPoll) := by
  induction paths generalizing f with
  | nil => rfl
  | cons path rest ih =>
    have hnext : (f.resolvePath fs path).2.startAtBeginning = true :=
      (f.resolvePath_spec fs path).2.beginning.trans hb
    have hrest := ih (f := { f with registry := (f.resolvePath fs path).2 }) hnext
    rw [resolveAll, resolveAll, resolvePath_later n firstPoll hb]
    simp only
    rw [show ({ f.later n firstPoll with registry := (f.resolvePath fs path).2.later n } : Follower) =
      later n firstPoll { f with registry := (f.resolvePath fs path).2 } from rfl, hrest]
    simp only [List.map_append, Option.toList_map]

end Follower

namespace World

/-- The world, had its follower made `n` polls more. -/
def later (n : Nat) (firstPoll : Bool) (w : World) : World :=
  { w with follower := w.follower.later n firstPoll }

@[simp]
theorem settings_later (n : Nat) (firstPoll : Bool) (w : World) :
    (w.later n firstPoll).follower.settings = w.follower.settings := rfl

@[simp]
theorem fs_later (n : Nat) (firstPoll : Bool) (w : World) : (w.later n firstPoll).fs = w.fs := rfl

@[simp]
theorem sink_later (n : Nat) (firstPoll : Bool) (w : World) :
    (w.later n firstPoll).sink = w.sink := rfl

theorem readAll_later (n : Nat) (firstPoll : Bool) (w : World) (rs : List Reader) :
    (w.later n firstPoll).readAll (rs.map (Reader.later n)) =
      ((w.readAll rs).1.map (Reading.later n), (w.readAll rs).2.later n firstPoll) := by
  induction rs generalizing w with
  | nil => rfl
  | cons r rest ih =>
    have hread : (r.later n).readToEnd w.follower.settings.toReadSettings w.fs w.sink =
        (r.readToEnd w.follower.settings.toReadSettings w.fs w.sink).later n :=
      Reader.read_later _ _ n r _ _
    have hrest := ih { w with sink :=
      (r.readToEnd w.follower.settings.toReadSettings w.fs w.sink).sink }
    rw [List.map_cons, readAll, readAll]
    simp only [settings_later, fs_later, sink_later, hread, List.map_cons]
    exact congrArg (fun x => (Reading.later n
      (r.readToEnd w.follower.settings.toReadSettings w.fs w.sink) :: x.1, x.2)) hrest

theorem settle_later (n : Nat) (firstPoll : Bool) (w : World) (reading : Reading) :
    settle (w.later n firstPoll) (reading.later n) = (settle w reading).later n firstPoll := by
  have hpath : (reading.later n).reader.path = reading.reader.path := rfl
  have houtcome : (reading.later n).outcome = reading.outcome := rfl
  unfold settle
  rw [settings_later, fs_later, hpath, houtcome]
  split
  · cases w.fs.remove reading.reader.path <;> rfl
  · simp only [later, Follower.later, Registry.track, Registry.later, Reading.later,
      List.map_append, List.map_cons, List.map_nil]

theorem foldl_settle_later (n : Nat) (firstPoll : Bool) (w : World) (readings : List Reading) :
    (readings.map (Reading.later n)).foldl settle (w.later n firstPoll) =
      (readings.foldl settle w).later n firstPoll := by
  induction readings generalizing w with
  | nil => rfl
  | cons reading rest ih => rw [List.map_cons, List.foldl_cons, settle_later, ih, List.foldl_cons]

theorem emittedBy_later (n : Nat) (readings : List Reading) :
    emittedBy (readings.map (Reading.later n)) = emittedBy readings := by
  rw [emittedBy, emittedBy, List.foldl_map]
  rfl

theorem retireAll_later (n : Nat) (firstPoll : Bool) (w : World) (rs : List Reader) :
    (w.later n firstPoll).retireAll (rs.map (Reader.later n)) =
      ((w.retireAll rs).1, (w.retireAll rs).2.later n firstPoll) := by
  induction rs generalizing w with
  | nil => rfl
  | cons r rest ih =>
    have hretire := r.retire_later w.follower.settings.toReadSettings w.fs n w.sink
    have hrest := ih { w with sink :=
      (r.retire w.follower.settings.toReadSettings w.fs w.sink).sink }
    rw [List.map_cons, retireAll, retireAll]
    simp only [settings_later, fs_later, sink_later, hretire]
    exact congrArg (fun x => (emittedOf
      (r.retire w.follower.settings.toReadSettings w.fs w.sink).outcome + x.1, x.2)) hrest

/-- The paths are resolved to the same readers, which were found later. -/
theorem resolved_later (w : World) (n : Nat) (firstPoll : Bool)
    (hb : w.follower.registry.startAtBeginning = true) :
    (w.later n firstPoll).resolved =
      (w.resolved.1.map (Reader.later n), w.resolved.2.later n firstPoll) := by
  have hbegun : ({ (w.later n firstPoll).follower with
      registry := (w.later n firstPoll).follower.registry.beginPoll } : Follower) =
      Follower.later n firstPoll { w.follower with registry := w.follower.registry.beginPoll } :=
    congrArg (fun registry => ({ w.follower with registry, firstPoll } : Follower))
      (w.follower.registry.beginPoll_later n)
  rw [resolved, hbegun]
  exact Follower.resolveAll_later n firstPoll
    (f := { w.follower with registry := w.follower.registry.beginPoll }) hb w.fs _

theorem persist_later (n : Nat) (firstPoll : Bool) (f : Follower) :
    (f.later n firstPoll).persist = f.persist.later n firstPoll := by
  have hc : (f.later n firstPoll).registry.checkpoints = f.registry.checkpoints :=
    f.registry.checkpoints_later n
  rw [Follower.persist, hc]
  rfl

theorem closing_later (n : Nat) (firstPoll : Bool) (files : Nat) (readings : List Reading)
    (w : World) :
    closing files (readings.map (Reading.later n), w.later n firstPoll) =
      ((closing files (readings, w)).1, (closing files (readings, w)).2.later n firstPoll) := by
  unfold closing
  simp only [foldl_settle_later, emittedBy_later]
  generalize readings.foldl settle w = u
  have hend : (u.later n firstPoll).follower.registry.endPoll =
      (u.follower.registry.endPoll.1.map (Reader.later n),
        u.follower.registry.endPoll.2.later n) := u.follower.registry.endPoll_later n
  have hretire := retireAll_later n firstPoll
    { u with follower.registry := u.follower.registry.endPoll.2 } u.follower.registry.endPoll.1
  have hended : ({ u.later n firstPoll with
      follower.registry := u.follower.registry.endPoll.2.later n } : World) =
      later n firstPoll { u with follower.registry := u.follower.registry.endPoll.2 } := rfl
  simp only [hend, hended, hretire, List.length_map]
  simp only [later, persist_later]

/-- **A poll does not see how many polls have been made.** -/
theorem poll_later (w : World) (n : Nat) (firstPoll : Bool)
    (hb : w.follower.registry.startAtBeginning = true) :
    (w.later n firstPoll).poll = (w.poll.1, w.poll.2.later n false) := by
  have hread := readAll_later n false { w with follower := { w.resolved.2 with firstPoll := false } }
    w.resolved.1
  rw [poll_eq, poll_eq, w.resolved_later n firstPoll hb, List.length_map]
  change closing _ ((later n false { w with follower := { w.resolved.2 with firstPoll := false } }).readAll
    (w.resolved.1.map (Reader.later n))) = _
  rw [hread]
  exact closing_later n false _ _ _

theorem poll_beginning (w : World) {settings : Settings} (h : w.follower.Idle settings) :
    w.poll.2.follower.registry.startAtBeginning = w.follower.registry.startAtBeginning :=
  (w.poll_idle h).beginning.trans h.beginning.symm

end World

/-! ## Watching a follower -/

/-- What can be seen of a poll: what it reports, the file system and the sink that it leaves behind,
what the follower tells of its readers, and what it has stored. -/
structure Sight where
  stats : PollStats
  fs : FileSystem
  sink : Sink
  checkpoints : List Checkpoint
  store : CheckpointStore

/-- What is seen of a poll that has given `x`. -/
def Sight.ofPoll (x : PollStats × World) : Sight :=
  { stats := x.1
    fs := x.2.fs
    sink := x.2.sink
    checkpoints := x.2.follower.registry.checkpoints
    store := x.2.follower.store }

theorem Sight.ofPoll_later (n : Nat) (firstPoll : Bool) (stats : PollStats) (w : World) :
    ofPoll (stats, w.later n firstPoll) = ofPoll (stats, w) := by
  have hc : (w.later n firstPoll).follower.registry.checkpoints = w.follower.registry.checkpoints :=
    w.follower.registry.checkpoints_later n
  rw [ofPoll, hc]
  rfl

namespace Follower

/-- What is seen of polls, one after another. Each meets a file system and a sink. -/
def watch : Follower → List (FileSystem × Sink) → List Sight
  | _, [] => []
  | f, (fs, sink) :: rest =>
    let polled := World.poll ⟨f, fs, sink⟩
    .ofPoll polled :: polled.2.follower.watch rest

/-- How many polls a follower has made is not seen. -/
theorem watch_later (n : Nat) (firstPoll : Bool) {settings : Settings} {f : Follower}
    (hi : f.Idle settings) (hb : f.registry.startAtBeginning = true)
    (history : List (FileSystem × Sink)) :
    (f.later n firstPoll).watch history = f.watch history := by
  induction history generalizing f firstPoll with
  | nil => rfl
  | cons encounter rest ih =>
    obtain ⟨fs, sink⟩ := encounter
    let w : World := ⟨f, fs, sink⟩
    have hrest : (w.poll.2.follower.later n false).watch rest = w.poll.2.follower.watch rest :=
      ih false (w.poll_idle hi) ((w.poll_beginning hi).trans hb)
    have hpoll : World.poll ⟨f.later n firstPoll, fs, sink⟩ = (w.poll.1, w.poll.2.later n false) :=
      w.poll_later n firstPoll hb
    have hfollower : (w.poll.2.later n false).follower = w.poll.2.follower.later n false := rfl
    rw [watch, hpoll]
    simp only [Sight.ofPoll_later, hfollower, hrest]
    rfl

/-- What the follower tells of its readers has a stored form: its numbers fit. -/
structure Storable (f : Follower) : Prop where
  size : Codec.Word f.registry.checkpoints.length
  checkpoints : ∀ c ∈ f.registry.checkpoints, c.Storable

end Follower

/-! ## Taking up what was stored -/

theorem HeaderState.attributes?_ne_none {h : HeaderState} :
    h.attributes? ≠ none ↔ ∃ attributes, h = .done attributes := by
  cases h <;> simp [attributes?]

/-- A reader whose header has ended is the reader of its checkpoint, found later. -/
theorem Reader.later_ofCheckpoint {settings : ReadSettings} {fs : FileSystem} {r : Reader}
    {attributes : Attributes} (hh : r.header = .done attributes)
    (ha : r.fileAttributes = settings.fileAttributes.attributes fs r.path) :
    (ofCheckpoint settings fs r.checkpoint).later r.generation = r := by
  obtain ⟨path, fingerprint, offset, lastSeenSize, generation, header, fileAttributes⟩ := r
  obtain rfl : header = .done attributes := hh
  obtain rfl : fileAttributes = settings.fileAttributes.attributes fs path := ha
  simp only [later, ofCheckpoint, build, checkpoint, HeaderState.attributes?, Nat.zero_add]

/-- A registry without empty slots is what is made of its checkpoints, some polls later. -/
theorem Registry.later_load {settings : ReadSettings} {fs : FileSystem} {g : Registry}
    (hall : g.candidates = g.readers.map some) (hcurrent : g.current = [])
    (hr : ∀ r ∈ g.readers, (Reader.ofCheckpoint settings fs r.checkpoint).later g.generation = r) :
    (Registry.load { startAtBeginning := g.startAtBeginning } settings fs g.checkpoints).later
      g.generation = g := by
  have hcandidates : (g.checkpoints.map fun c => some (Reader.ofCheckpoint settings fs c)).map
      (Option.map (Reader.later g.generation)) = g.candidates := by
    rw [hall, checkpoints, List.map_map, List.map_map]
    exact List.map_congr_left fun r hm => congrArg some (hr r hm)
  rw [load, later]
  simp only [hcandidates, List.map_nil, Nat.zero_add]
  rw [← hcurrent]

namespace World

/-- A poll stores what the follower tells of its readers. -/
theorem store_poll (w : World) :
    w.poll.2.follower.store = w.settled.follower.store.persist w.poll.2.follower.settings.id
      w.poll.2.follower.registry.checkpoints := by
  rw [poll_snd]
  rfl

end World

namespace Follower

/-- A new follower that has taken up checkpoints. -/
def restarted (settings : Settings) (store : CheckpointStore) (fs : FileSystem)
    (checkpoints : List Checkpoint) : Follower :=
  { new settings store with
    registry := (new settings store).registry.load settings.toReadSettings fs checkpoints }

theorem load_new {settings : Settings} {store : CheckpointStore} {checkpoints : List Checkpoint}
    (h : store.load settings.id = .ok checkpoints) (fs : FileSystem) :
    (new settings store).load fs = .ok (restarted settings store fs checkpoints) := by
  have hload : (new settings store).store.load (new settings store).settings.id = .ok checkpoints := h
  rw [load, hload]
  rfl

/-- A follower whose readers are all those of their checkpoints is a new one, some polls later. -/
theorem later_restarted {settings : Settings} {fs : FileSystem} {f : Follower}
    (hi : f.Idle settings) (hall : f.registry.candidates = f.registry.readers.map some)
    (hr : ∀ r ∈ f.registry.readers,
      (Reader.ofCheckpoint settings.toReadSettings fs r.checkpoint).later f.registry.generation =
        r) :
    (restarted settings f.store fs f.registry.checkpoints).later f.registry.generation f.firstPoll =
      f := by
  have hregistry := Registry.later_load hall hi.current hr
  rw [hi.beginning] at hregistry
  obtain ⟨settings, registry, store, firstPoll⟩ := f
  obtain rfl := hi.settings_eq
  exact congrArg (fun registry => ({ settings, registry, store, firstPoll } : Follower)) hregistry

/-- **A restart cannot be told.** Take a follower that reads files from their beginning and follows no
links for their attributes, after a poll that has carried over no reader unread and has left no reader in
a header, and whose readers it could store. A new follower that takes up what is stored does the same as
that one in all polls to come. -/
theorem Reachable.watch_restarted {admits : List Checkpoint → Prop} {settings : Settings} {w : World}
    (h : w.follower.Reachable admits settings) (hstart : settings.startAt = .beginning)
    (hname : settings.fileAttributes.nameResolved = false)
    (hpath : settings.fileAttributes.pathResolved = false) (hkept : w.kept = [])
    (hheader : ∀ r ∈ w.poll.2.follower.registry.readers, r.header.attributes? ≠ none)
    (hstored : w.poll.2.follower.Storable) (fs : FileSystem) :
    ∃ fresh, (Follower.new settings w.poll.2.follower.store).load fs = .ok fresh ∧
      ∀ history, fresh.watch history = w.poll.2.follower.watch history := by
  have hidle := w.poll_idle h.idle
  have hload : w.poll.2.follower.store.load settings.id =
      .ok w.poll.2.follower.registry.checkpoints := by
    rw [World.store_poll, hidle.settings_eq]
    exact CheckpointStore.load_persist _ _ hstored.size hstored.checkpoints
  have hreader : ∀ r ∈ w.poll.2.follower.registry.readers,
      (Reader.ofCheckpoint settings.toReadSettings fs r.checkpoint).later
        w.poll.2.follower.registry.generation = r := by
    intro r hr
    obtain ⟨attributes, ha⟩ := HeaderState.attributes?_ne_none.mp (hheader r hr)
    rcases World.found_of_mem_poll hr with hm | ⟨hg, hf⟩
    · rw [hkept] at hm
      exact absurd hm List.not_mem_nil
    · rw [h.idle.settings_eq] at hf
      rw [← hg]
      exact Reader.later_ofCheckpoint ha
        (hf.trans (FileAttributeChoice.attributes_eq hname hpath w.fs fs r.path))
  have hsame := later_restarted hidle w.candidates_poll hreader
  refine ⟨_, load_new hload fs, fun history => ?_⟩
  conv_rhs => rw [← hsame]
  exact (watch_later _ _ ⟨rfl, rfl, rfl⟩ (decide_eq_true hstart) history).symm

/-- The follower of two log files that have been read whole may be restarted. -/
theorem watch_restarted_ofLogs :
    let w := World.ofLogs [0x78, 0x0A] [0x79, 0x0A]
    w.follower.Reachable (fun _ => True) .logs ∧ w.kept = [] ∧
      w.poll.2.follower.registry.checkpoints =
        [⟨"a.log", ⟨[0x78, 0x0A]⟩, 2, 2, some .empty⟩, ⟨"b.log", ⟨[0x79, 0x0A]⟩, 2, 2, some .empty⟩] ∧
      ∃ fresh, (new .logs w.poll.2.follower.store).load w.fs = .ok fresh ∧
        ∀ history, fresh.watch history = w.poll.2.follower.watch history := by
  intro w
  have ha : ([0x78, 0x0A] : Bytes) ≠ [] := List.cons_ne_nil _ _
  have hb : ([0x79, 0x0A] : Bytes) ≠ [] := List.cons_ne_nil _ _
  have hreachable : w.follower.Reachable (fun _ => True) .logs := Reachable.new ⟨false, []⟩
  have hkept : w.kept = [] := by
    rw [World.kept, World.resolved_ofLogs ha hb]
  have hreaders := World.readers_ofLogs ha hb ⟨by decide, by decide⟩ ⟨by decide, by decide⟩
  have hcheckpoints : w.poll.2.follower.registry.checkpoints =
      [⟨"a.log", ⟨[0x78, 0x0A]⟩, 2, 2, some .empty⟩, ⟨"b.log", ⟨[0x79, 0x0A]⟩, 2, 2, some .empty⟩] := by
    rw [Registry.checkpoints, hreaders]
    rfl
  have hheader : ∀ r ∈ w.poll.2.follower.registry.readers, r.header.attributes? ≠ none := by
    rw [hreaders]
    simp only [List.forall_mem_cons]
    exact ⟨Option.some_ne_none _, Option.some_ne_none _, fun _ h => absurd h List.not_mem_nil⟩
  refine ⟨hreachable, hkept, hcheckpoints,
    Reachable.watch_restarted hreachable rfl rfl rfl hkept hheader ⟨?_, ?_⟩ w.fs⟩
  · rw [hcheckpoints]
    decide
  · rw [hcheckpoints]
    decide +kernel

end Follower

end LogFollow
