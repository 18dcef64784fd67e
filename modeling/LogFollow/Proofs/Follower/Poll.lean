import LogFollow.Follower
import LogFollow.Proofs.Reader.File
import LogFollow.Proofs.Registry.Match

/-!
# The stages of a poll

A poll finds the readers of the paths, reads with each of them, and takes the last readings of those
that are given up. Each of these stages is described here by itself: which readers come of the paths if
each file is recognised, what a sequence of readings does to the sink, and what a poll leaves behind
when no file is deleted. The journal of a poll says which events were accepted from which path.
-/
namespace LogFollow

/-! ## Readings one after another -/

/-- A reading, with the reader and the sink that it began with. -/
structure Passage where
  reader : Reader
  before : Sink
  reading : Reading

/-- The events that were accepted in the reading. -/
def Passage.delivered (x : Passage) : List Event :=
  x.reading.sink.accepted.drop x.before.accepted.length

/-- Readings one after another, each with the sink that the one before it has left, and the sink that
is left in the end. -/
def passages (read : Reader → Sink → Reading) : Sink → List Reader → List Passage × Sink
  | sink, [] => ([], sink)
  | sink, r :: rest =>
    let reading := read r sink
    let (more, last) := passages read reading.sink rest
    (⟨r, sink, reading⟩ :: more, last)

section

variable {read : Reader → Sink → Reading}

theorem passages_cons (sink : Sink) (r : Reader) (rest : List Reader) :
    passages read sink (r :: rest) =
      (⟨r, sink, read r sink⟩ :: (passages read (read r sink).sink rest).1,
        (passages read (read r sink).sink rest).2) := rfl

theorem map_reader_passages (read : Reader → Sink → Reading) (sink : Sink) (rs : List Reader) :
    (passages read sink rs).1.map (·.reader) = rs := by
  induction rs generalizing sink with
  | nil => rfl
  | cons r rest ih => rw [passages_cons, List.map_cons, ih]

theorem reader_mem_of_mem_passages {sink : Sink} {rs : List Reader} {x : Passage}
    (h : x ∈ (passages read sink rs).1) : x.reader ∈ rs := by
  rw [← map_reader_passages read sink rs]
  exact List.mem_map_of_mem h

theorem reading_of_mem_passages {sink : Sink} {rs : List Reader} {x : Passage}
    (h : x ∈ (passages read sink rs).1) : x.reading = read x.reader x.before := by
  induction rs generalizing sink with
  | nil => exact absurd h List.not_mem_nil
  | cons r rest ih =>
    rw [passages_cons] at h
    rcases List.mem_cons.mp h with rfl | h
    · rfl
    · exact ih h

/-- What is accepted in a sequence of readings is what is accepted in each of them, in order. -/
theorem accepted_passages (read : Reader → Sink → Reading) (rs : List Reader)
    (h : ∀ r ∈ rs, ∀ sink, sink.accepted <+: (read r sink).sink.accepted) (sink : Sink) :
    (passages read sink rs).2.accepted =
      sink.accepted ++ (passages read sink rs).1.flatMap (·.delivered) := by
  induction rs generalizing sink with
  | nil => exact (List.append_nil _).symm
  | cons r rest ih =>
    obtain ⟨more, hmore⟩ := h r List.mem_cons_self sink
    have hd : Passage.delivered ⟨r, sink, read r sink⟩ = more := by
      rw [Passage.delivered, ← hmore, List.drop_left]
    have hrest := ih (fun r hr => h r (List.mem_cons_of_mem _ hr)) (read r sink).sink
    rw [passages_cons, List.flatMap_cons, hrest, hd, ← hmore, List.append_assoc]

/-- What each reading keeps of its sink, all of them begin with. -/
theorem before_passages {P : Sink → Prop} {rs : List Reader}
    (h : ∀ r ∈ rs, ∀ sink, P sink → P (read r sink).sink) {sink : Sink} (hw : P sink) {x : Passage}
    (hx : x ∈ (passages read sink rs).1) : P x.before := by
  induction rs generalizing sink with
  | nil => exact absurd hx List.not_mem_nil
  | cons r rest ih =>
    rw [passages_cons] at hx
    rcases List.mem_cons.mp hx with rfl | hx
    · exact hw
    · exact ih (fun r hr => h r (List.mem_cons_of_mem _ hr)) (h r List.mem_cons_self sink hw) hx

end

/-! ## Finding the paths -/

namespace Finder

theorem firstSpellings_spec (home : Place) (seen : List Place) (paths : List String) :
    (firstSpellings home seen paths).Pairwise
        (fun p q => FilePath.absolute home p ≠ FilePath.absolute home q) ∧
      ∀ p ∈ firstSpellings home seen paths, FilePath.absolute home p ∉ seen := by
  induction paths generalizing seen with
  | nil => exact ⟨.nil, fun p hp => absurd hp List.not_mem_nil⟩
  | cons path rest ih =>
    change (if seen.contains (FilePath.absolute home path) then firstSpellings home seen rest
      else path :: firstSpellings home (FilePath.absolute home path :: seen) rest).Pairwise _ ∧
        ∀ p ∈ (if seen.contains (FilePath.absolute home path) then firstSpellings home seen rest
          else path :: firstSpellings home (FilePath.absolute home path :: seen) rest), _
    split
    · exact ih seen
    · next hseen =>
      obtain ⟨hpair, hfresh⟩ := ih (FilePath.absolute home path :: seen)
      refine ⟨List.pairwise_cons.mpr ⟨fun q hq heq => ?_, hpair⟩, fun p hp => ?_⟩
      · exact hfresh q hq (heq ▸ List.mem_cons_self)
      · rcases List.mem_cons.mp hp with rfl | hp
        · simpa using hseen
        · exact fun hm => hfresh p hp (List.mem_cons_of_mem _ hm)

/-- No two of the paths that are found are spellings of one path. -/
theorem find_pairwise (f : Finder) (fs : FileSystem) :
    (f.find fs).Pairwise fun p q => FilePath.same p q = false := by
  refine (firstSpellings_spec fs.home [] _).1.imp fun {p q} hne => ?_
  rw [← Bool.not_eq_true]
  intro hsame
  apply hne
  rw [FilePath.absolute, FilePath.absolute, eq_of_beq hsame]

theorem find_nodup (f : Finder) (fs : FileSystem) : (f.find fs).Nodup := by
  refine (f.find_pairwise fs).imp fun {p q} hne => ?_
  rintro rfl
  rw [FilePath.same, beq_self_eq_true] at hne
  cases hne

/-- A path is not found again behind it, and no other spelling of it is. -/
theorem split_spec {f : Finder} {fs : FileSystem} {done : List String} {path : String}
    {rest : List String} (h : f.find fs = done ++ path :: rest) :
    path ∉ done ∧ ∀ q ∈ rest, q ∉ done ∧ FilePath.same q path = false := by
  have hnd := f.find_nodup fs
  have hpair := f.find_pairwise fs
  rw [h, List.nodup_append] at hnd
  rw [h, List.pairwise_append, List.pairwise_cons] at hpair
  refine ⟨fun hp => hnd.2.2 path hp path List.mem_cons_self rfl, fun q hq => ⟨fun hp => ?_, ?_⟩⟩
  · exact hnd.2.2 q hp q (List.mem_cons_of_mem _ hq) rfl
  · rw [← hpair.2.1.1 q hq, FilePath.same, FilePath.same]
    exact BEq.comm

end Finder

/-! ## Finding the readers -/

namespace Follower

/-- In each path's turn the best candidate is its prior reader. -/
def Recognises (fs : FileSystem) (prior : String → Option Reader) : Follower → List String → Prop
  | _, [] => True
  | f, path :: rest =>
    (∀ content, fs.openPath path = .ok (.file content) →
      (f.registry.best? path (.ofContent f.settings.fingerprintSize content)).map Prod.snd =
        prior path) ∧
    Recognises fs prior { f with registry := (f.resolvePath fs path).2 } rest

/-- The reader that goes on where the prior reader of a path stopped, if the path has a file with
bytes. -/
def follow (f : Follower) (fs : FileSystem) (prior : String → Option Reader) (path : String) :
    Option Reader :=
  match fs.openPath path with
  | .ok (.file content) =>
    if content = [] then none
    else
      some (f.registry.successor f.settings.toReadSettings fs path
        (.ofContent f.settings.fingerprintSize content) content.length f.firstPoll (prior path))
  | _ => none

theorem resolvePath_file {f : Follower} (hn : 0 < f.settings.fingerprintSize) {fs : FileSystem}
    {path : String} {content : Bytes} (ho : fs.openPath path = .ok (.file content)) :
    f.resolvePath fs path =
      if content = [] then (none, f.registry)
      else
        (some (f.registry.successor f.settings.toReadSettings fs path
            (.ofContent f.settings.fingerprintSize content) content.length f.firstPoll
            ((f.registry.best? path (.ofContent f.settings.fingerprintSize content)).map
              Prod.snd)),
          f.registry.without path (.ofContent f.settings.fingerprintSize content)) := by
  unfold resolvePath
  rw [ho]
  simp only [Registry.resolve_file hn]
  by_cases hc : content = []
  · rw [if_pos hc, if_pos hc]
  · rw [if_neg hc, if_neg hc]

/-- What resolving paths leaves of the registry: the readers that are prior to none of them. -/
structure Remains (prior : String → Option Reader) (paths : List String) (g g' : Registry) :
    Prop where
  current : g'.current = g.current
  beginning : g'.startAtBeginning = g.startAtBeginning
  generation : g'.generation = g.generation
  nodup : g.readers.Nodup → g'.readers.Nodup
  readers : g.readers.Nodup → ∀ r, r ∈ g'.readers ↔ r ∈ g.readers ∧
    ∀ path ∈ paths, prior path ≠ some r

variable {fs : FileSystem} {prior : String → Option Reader}

theorem Remains.refl (g : Registry) : Remains prior [] g g :=
  ⟨rfl, rfl, rfl, id, fun _ _ => ⟨fun hr => ⟨hr, fun _ hp => absurd hp List.not_mem_nil⟩, And.left⟩⟩

theorem Remains.append {paths paths' : List String} {g g₁ g₂ : Registry}
    (h₁ : Remains prior paths g g₁) (h₂ : Remains prior paths' g₁ g₂) :
    Remains prior (paths ++ paths') g g₂ where
  current := h₂.current.trans h₁.current
  beginning := h₂.beginning.trans h₁.beginning
  generation := h₂.generation.trans h₁.generation
  nodup h := h₂.nodup (h₁.nodup h)
  readers h r := by
    rw [h₂.readers (h₁.nodup h), h₁.readers h]
    constructor
    · rintro ⟨⟨hr, hfirst⟩, hrest⟩
      refine ⟨hr, fun p hp => ?_⟩
      rcases List.mem_append.mp hp with hp | hp
      · exact hfirst p hp
      · exact hrest p hp
    · rintro ⟨hr, hall⟩
      exact ⟨⟨hr, fun p hp => hall p (List.mem_append_left _ hp)⟩,
        fun p hp => hall p (List.mem_append_right _ hp)⟩

/-- A path is resolved to the reader that follows its prior reader, which is a candidate no more. -/
theorem resolvePath_eq {f : Follower} (hn : 0 < f.settings.fingerprintSize) {path : String}
    {content : Bytes} (ho : fs.openPath path = .ok (.file content))
    (hbest : (f.registry.best? path (.ofContent f.settings.fingerprintSize content)).map Prod.snd =
      prior path) :
    (f.resolvePath fs path).1 = f.follow fs prior path ∧
      Remains prior [path] f.registry (f.resolvePath fs path).2 := by
  rw [resolvePath_file hn ho, follow, ho]
  by_cases hc : content = []
  · have hnone : prior path = none := by
      rw [← hbest, hc, Registry.best?_of_isEmpty _ _ (Fingerprint.isEmpty_ofContent hn [])]
      rfl
    simp only [if_pos hc]
    refine ⟨trivial, rfl, rfl, rfl, id, fun _ r => ⟨fun hr => ⟨hr, fun p hp => ?_⟩, And.left⟩⟩
    rw [List.mem_singleton.mp hp, hnone]
    exact nofun
  · obtain ⟨h₁, h₂, h₃⟩ := f.registry.without_frame path
      (.ofContent f.settings.fingerprintSize content)
    simp only [if_neg hc, hbest]
    refine ⟨trivial, h₁, h₂, h₃, fun h => Registry.nodup_readers_without h _ _, fun h r => ?_⟩
    rw [Registry.mem_readers_without h, hbest]
    simp only [List.mem_singleton, forall_eq]

/-- Whether a path is recognised while the candidates of those before it are taken may depend on the
paths behind it. All paths are recognised if this holds of each. -/
theorem recognises_iff {R : String → String → Prop} {f : Follower}
    (hn : 0 < f.settings.fingerprintSize) {paths : List String}
    (ho : ∀ path ∈ paths, ∃ content, fs.openPath path = .ok (.file content))
    (hbest : ∀ done path rest, paths = done ++ path :: rest →
      ∀ g, Remains prior done f.registry g →
      ∀ content, fs.openPath path = .ok (.file content) →
        ((g.best? path (.ofContent f.settings.fingerprintSize content)).map Prod.snd = prior path ↔
          ∀ q ∈ rest, R path q)) :
    Recognises fs prior f paths ↔ paths.Pairwise R := by
  suffices hall : ∀ done rest, paths = done ++ rest → ∀ g, Remains prior done f.registry g →
      (Recognises fs prior { f with registry := g } rest ↔ rest.Pairwise R) from
    hall [] paths rfl f.registry (.refl _)
  intro done rest
  induction rest generalizing done with
  | nil => exact fun _ _ _ => ⟨fun _ => .nil, fun _ => trivial⟩
  | cons path rest ih =>
    intro hsplit g hg
    obtain ⟨content, hopen⟩ :=
      ho path (hsplit ▸ List.mem_append_right _ List.mem_cons_self)
    have hb := hbest done path rest hsplit g hg content hopen
    have hrest : (∀ q ∈ rest, R path q) →
        (Recognises fs prior { f with registry := (resolvePath { f with registry := g } fs path).2 }
          rest ↔ rest.Pairwise R) := by
      intro hR
      obtain ⟨-, hrem⟩ := resolvePath_eq (f := { f with registry := g }) hn hopen (hb.mpr hR)
      exact ih (done ++ [path]) (by rw [hsplit, List.append_assoc]; rfl) _ (hg.append hrem)
    rw [List.pairwise_cons]
    constructor
    · rintro ⟨hfirst, hr⟩
      have hR := hb.mp (hfirst content hopen)
      exact ⟨hR, (hrest hR).mp hr⟩
    · rintro ⟨hR, hp⟩
      refine ⟨fun content' hopen' => ?_, (hrest hR).mpr hp⟩
      rw [hopen] at hopen'
      cases hopen'
      exact hb.mpr hR

theorem follow_congr {f : Follower} {g : Registry} (hb : g.startAtBeginning =
    f.registry.startAtBeginning) (hg : g.generation = f.registry.generation) :
    follow { f with registry := g } fs prior = f.follow fs prior := by
  funext path
  unfold follow
  split
  · split
    · rfl
    · cases prior path with
      | none => simp only [Registry.successor, Registry.firstOffset, hb, hg]
      | some r => simp only [Registry.successor, hg]
  · rfl

theorem follow_path {f : Follower} {path : String} {r : Reader}
    (h : f.follow fs prior path = some r) : r.path = path := by
  unfold follow at h
  split at h
  · split at h
    · cases h
    · obtain rfl := Option.some.inj h
      cases prior path <;> rfl
  · cases h

theorem map_path_follow_sublist (f : Follower) (fs : FileSystem)
    (prior : String → Option Reader) (paths : List String) :
    ((paths.filterMap (f.follow fs prior)).map (·.path)).Sublist paths := by
  induction paths with
  | nil => exact .slnil
  | cons path rest ih =>
    rw [List.filterMap_cons]
    cases h : f.follow fs prior path with
    | none => exact ih.cons path
    | some r =>
      rw [List.map_cons, follow_path h]
      exact ih.cons_cons path

/-- **Paths are resolved to the readers that follow their prior readers.** -/
theorem resolveAll_eq (paths : List String) {f : Follower}
    (hn : 0 < f.settings.fingerprintSize)
    (ho : ∀ path ∈ paths, ∃ content, fs.openPath path = .ok (.file content))
    (hr : Recognises fs prior f paths) :
    ∃ g, f.resolveAll fs paths = (paths.filterMap (f.follow fs prior), { f with registry := g }) ∧
      Remains prior paths f.registry g := by
  induction paths generalizing f with
  | nil =>
    exact ⟨f.registry, rfl, .refl _⟩
  | cons path rest ih =>
    obtain ⟨hbest, hrest⟩ := hr
    obtain ⟨content, hopen⟩ := ho path List.mem_cons_self
    obtain ⟨hfst, hrem⟩ := resolvePath_eq hn hopen (hbest content hopen)
    obtain ⟨g, hg, hrem'⟩ := ih (f := { f with registry := (f.resolvePath fs path).2 }) hn
      (fun p hp => ho p (List.mem_cons_of_mem _ hp)) hrest
    refine ⟨g, ?_, hrem.append hrem'⟩
    rw [resolveAll]
    simp only
    rw [hg, hfst, follow_congr hrem.beginning hrem.generation, List.filterMap_cons]
    cases f.follow fs prior path <;> rfl

end Follower

/-! ## The poll -/

namespace World

/-- The readers of the paths that are found in a poll, and the follower without their candidates. -/
def resolved (w : World) : List Reader × Follower :=
  Follower.resolveAll { w.follower with registry := w.follower.registry.beginPoll } w.fs
    (w.follower.settings.finder.find w.fs)

/-- The readings of a poll. -/
def readings (w : World) : List Passage × Sink :=
  passages (fun r sink => r.readToEnd w.follower.settings.toReadSettings w.fs sink) w.sink
    w.resolved.1

theorem reader_mem_of_mem_readings {w : World} {x : Passage} (h : x ∈ w.readings.1) :
    x.reader ∈ w.resolved.1 := by
  rw [readings] at h
  exact reader_mem_of_mem_passages h

/-- Each reader of a poll makes a reading. -/
theorem map_reader_readings (w : World) : w.readings.1.map (·.reader) = w.resolved.1 :=
  map_reader_passages _ _ _

/-- The last readings, of the readers that a poll gives up. -/
def retirings (w : World) : List Passage × Sink :=
  passages (fun r sink => r.retire w.follower.settings.toReadSettings w.fs sink) w.readings.2
    w.resolved.2.registry.readers

/-- The paths that a poll reads, with the events that are accepted from each. -/
def journal (w : World) : List (String × List Event) :=
  (w.readings.1 ++ w.retirings.1).map fun x => (x.reader.path, x.delivered)

theorem readAll_eq (w : World) (rs : List Reader) :
    w.readAll rs =
      ((passages (fun r sink => r.readToEnd w.follower.settings.toReadSettings w.fs sink) w.sink
          rs).1.map (·.reading),
        { w with sink := (passages
          (fun r sink => r.readToEnd w.follower.settings.toReadSettings w.fs sink) w.sink rs).2 }) := by
  induction rs generalizing w with
  | nil => rfl
  | cons r rest ih =>
    rw [readAll, passages_cons]
    simp only
    rw [ih]
    rfl

theorem retireAll_snd (w : World) (rs : List Reader) :
    (w.retireAll rs).2 =
      { w with sink := (passages
        (fun r sink => r.retire w.follower.settings.toReadSettings w.fs sink) w.sink rs).2 } := by
  induction rs generalizing w with
  | nil => rfl
  | cons r rest ih =>
    rw [retireAll, passages_cons]
    simp only
    rw [ih]

/-- The world when some readers have been handed back. -/
def withCurrent (w : World) (rs : List Reader) : World :=
  { w with follower.registry.current := w.follower.registry.current ++ rs }

theorem withCurrent_append (w : World) (rs rs' : List Reader) :
    (w.withCurrent rs).withCurrent rs' = w.withCurrent (rs ++ rs') := by
  simp [withCurrent]

/-- Where no file is deleted all readers are handed back. -/
theorem foldl_settle (readings : List Reading) {w : World}
    (hd : w.follower.settings.deleteAfterRead = false) :
    readings.foldl settle w = w.withCurrent (readings.map (·.reader)) := by
  induction readings generalizing w with
  | nil => simp [withCurrent]
  | cons reading rest ih =>
    have hdel : deletes w.follower.settings.toReadSettings reading.outcome = false := by
      unfold deletes
      split
      · rw [hd, Bool.false_and]
      · rfl
    have hs : settle w reading = w.withCurrent [reading.reader] := by
      rw [settle, hdel]
      rfl
    rw [List.foldl_cons, hs, ih (w := w.withCurrent [reading.reader]) hd, withCurrent_append]
    rfl

theorem resolveAll_frame (f : Follower) (fs : FileSystem) (paths : List String) :
    (f.resolveAll fs paths).2.settings = f.settings ∧
      (f.resolveAll fs paths).2.store = f.store ∧
      (f.resolveAll fs paths).2.firstPoll = f.firstPoll := by
  induction paths generalizing f with
  | nil => exact ⟨rfl, rfl, rfl⟩
  | cons path rest ih =>
    rw [Follower.resolveAll]
    exact ih { f with registry := (f.resolvePath fs path).2 }

theorem resolved_settings (w : World) : w.resolved.2.settings = w.follower.settings :=
  (resolveAll_frame _ w.fs _).1

/-- The world when the files of the paths have been read. -/
def hasRead (w : World) : World :=
  { w with follower := { w.resolved.2 with firstPoll := false }, sink := w.readings.2 }

/-- The world when all readers have been handed back, but for those whose file was deleted. -/
def settled (w : World) : World := (w.readings.1.map (·.reading)).foldl settle w.hasRead

/-- The last readings, of the file system without the files that were deleted. -/
def flushes (w : World) : List Passage × Sink :=
  passages (fun r sink => r.retire w.follower.settings.toReadSettings w.settled.fs sink)
    w.settled.sink w.settled.follower.registry.readers

/-- Handing a reader back changes the registry, and deleting a file the file system. -/
theorem settle_frame (w : World) (reading : Reading) :
    (settle w reading).follower.settings = w.follower.settings ∧
      (settle w reading).follower.store = w.follower.store ∧
      (settle w reading).follower.registry.candidates = w.follower.registry.candidates ∧
      (settle w reading).follower.registry.startAtBeginning =
        w.follower.registry.startAtBeginning ∧
      (settle w reading).follower.registry.generation = w.follower.registry.generation ∧
      (settle w reading).sink = w.sink := by
  unfold settle
  split
  · split <;> exact ⟨rfl, rfl, rfl, rfl, rfl, rfl⟩
  · exact ⟨rfl, rfl, rfl, rfl, rfl, rfl⟩

theorem foldl_settle_frame (readings : List Reading) (w : World) :
    (readings.foldl settle w).follower.settings = w.follower.settings ∧
      (readings.foldl settle w).follower.store = w.follower.store ∧
      (readings.foldl settle w).follower.registry.candidates = w.follower.registry.candidates ∧
      (readings.foldl settle w).follower.registry.startAtBeginning =
        w.follower.registry.startAtBeginning ∧
      (readings.foldl settle w).follower.registry.generation = w.follower.registry.generation ∧
      (readings.foldl settle w).sink = w.sink := by
  induction readings generalizing w with
  | nil => exact ⟨rfl, rfl, rfl, rfl, rfl, rfl⟩
  | cons reading rest ih =>
    obtain ⟨h₁, h₂, h₃, h₄, h₅, h₆⟩ := settle_frame w reading
    obtain ⟨k₁, k₂, k₃, k₄, k₅, k₆⟩ := ih (settle w reading)
    exact ⟨k₁.trans h₁, k₂.trans h₂, k₃.trans h₃, k₄.trans h₄, k₅.trans h₅, k₆.trans h₆⟩

/-- What a poll does when it has read the files: hands the readers back, takes the last readings of
those that are given up, and stores how far the others have come. -/
def closing (files : Nat) (x : List Reading × World) : PollStats × World :=
  let settled := x.1.foldl settle x.2
  let ended : World :=
    { settled with follower.registry := settled.follower.registry.endPoll.2 }
  let last := ended.retireAll settled.follower.registry.endPoll.1
  ({ files
     emitted := emittedBy x.1 + last.1
     retired := settled.follower.registry.endPoll.1.length },
    { last.2 with follower := last.2.follower.persist })

theorem poll_eq (w : World) :
    w.poll = closing w.resolved.1.length
      ({ w with follower := { w.resolved.2 with firstPoll := false } }.readAll w.resolved.1) := rfl

/-- **What a poll leaves behind.** -/
theorem poll_snd (w : World) :
    w.poll.2 =
      { w.settled with
        sink := w.flushes.2
        follower := { w.settled.follower with
          registry := w.settled.follower.registry.endPoll.2 }.persist } := by
  have hread : ({ w with follower := { w.resolved.2 with firstPoll := false } } : World).readAll
      w.resolved.1 = (w.readings.1.map (·.reading), w.hasRead) := by
    rw [readAll_eq, resolved_settings]
    rfl
  have hsettled : w.settled.follower.settings = w.follower.settings :=
    (foldl_settle_frame _ w.hasRead).1.trans w.resolved_settings
  rw [poll_eq, hread, closing]
  simp only [retireAll_snd]
  rw [← settled, hsettled]
  rfl

/-- What a poll leaves behind that deletes no file. -/
structure Polled (w : World) (g : Registry) (w' : World) : Prop where
  settings : w'.follower.settings = w.follower.settings
  sink : w'.sink = w.retirings.2
  current : w'.follower.registry.current = []
  beginning : w'.follower.registry.startAtBeginning = g.startAtBeginning
  readers : w'.follower.registry.readers = g.current ++ w.readings.1.map (·.reading.reader)

theorem polled {w : World} (hd : w.follower.settings.deleteAfterRead = false) :
    Polled w w.resolved.2.registry w.poll.2 := by
  have hsettled : w.settled = w.hasRead.withCurrent
      (w.readings.1.map fun x : Passage => x.reading.reader) := by
    have hkeeps : w.hasRead.follower.settings.deleteAfterRead = false := by
      rw [← hd, ← w.resolved_settings]
      rfl
    rw [settled, foldl_settle _ hkeeps, List.map_map]
    rfl
  rw [poll_snd, flushes, hsettled]
  refine ⟨w.resolved_settings, rfl, rfl, rfl, ?_⟩
  change (List.map some _).filterMap id = _
  rw [List.filterMap_map]
  exact List.filterMap_some

end World

end LogFollow
