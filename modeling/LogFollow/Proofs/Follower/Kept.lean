import LogFollow.Proofs.Follower.Apart
import LogFollow.Proofs.Follower.Measured
import LogFollow.Proofs.Follower.Restart
import LogFollow.Proofs.Registry.Choice

/-!
# Files that cannot be opened for a while

A path may be found though nothing can be read there: a link that leads nowhere, a file that is locked. The
reader that is bound to the path then waits. It is the same reader after the poll as before, nothing is read
with it, and its checkpoint is stored, however many such polls come. When the file can be opened again the
reader goes on with it where it stopped. Only a file at another path that comes first in a poll may take
the reader away meanwhile.
-/
namespace LogFollow

/-- Opening what stands at a path fails, or taking its fingerprint does. -/
def FileSystem.Unreadable (fs : FileSystem) (limit : Nat) (path : String) : Prop :=
  ∀ fingerprint, (fs.openPath path).bind (·.fingerprint limit) ≠ .ok fingerprint

/-- A reader has read a file: it knows the file by its beginning, and does not stand behind its end. -/
structure Reader.HasRead (r : Reader) (content : Bytes) : Prop where
  known : r.fingerprint.bytes ≠ []
  beginning : r.fingerprint.bytes <+: content
  offset : r.offset ≤ content.length

/-- A reader that has read a file knows it when it has grown. -/
theorem Reader.HasRead.matchesWith {r : Reader} {content : Bytes} (h : r.HasRead content)
    (more : Bytes) {limit : Nat} (hl : 0 < limit) :
    r.fingerprint.matchesWith (.ofContent limit (content ++ more)) = true := by
  rw [Fingerprint.matchesWith_iff]
  have hgrown : r.fingerprint.bytes <+: content ++ more := h.beginning.trans (List.prefix_append _ _)
  refine ⟨h.known, ?_, List.prefix_or_prefix_of_prefix hgrown (List.take_prefix _ _)⟩
  rw [Fingerprint.ofContent, ne_eq, List.take_eq_nil_iff]
  rintro (hzero | hnil)
  · omega
  · rw [hnil, List.prefix_nil] at hgrown
    exact h.known hgrown

namespace Follower

variable {f : Follower} {fs : FileSystem} {path : String} {paths : List String} {r : Reader}

/-! ## The candidates that files take -/

/-- The candidate that the file at a path goes on with. -/
def taken? (f : Follower) (fs : FileSystem) (path : String) : Option Reader :=
  match fs.openPath path with
  | .ok (.file content) =>
    (f.registry.best? path (.ofContent f.settings.fingerprintSize content)).map Prod.snd
  | _ => none

/-- The candidates that the files at paths go on with, when they are resolved in order. -/
def takenBy (fs : FileSystem) : Follower → List String → List Reader
  | _, [] => []
  | f, path :: rest =>
    (f.taken? fs path).toList ++ takenBy fs { f with registry := (f.resolvePath fs path).2 } rest

/-- A candidate is taken by a file that it knows. -/
theorem exists_of_mem_takenBy (h : r ∈ takenBy fs f paths) :
    ∃ path ∈ paths, ∃ content, fs.openPath path = .ok (.file content) ∧
      r.fingerprint.matchesWith (.ofContent f.settings.fingerprintSize content) = true := by
  induction paths generalizing f with
  | nil => exact absurd h List.not_mem_nil
  | cons path rest ih =>
    rcases List.mem_append.mp h with h | h
    · refine ⟨path, List.mem_cons_self, ?_⟩
      rw [Option.mem_toList, taken?] at h
      split at h
      · next content ho =>
        refine ⟨content, ho, ?_⟩
        rcases f.registry.best?_spec path (.ofContent f.settings.fingerprintSize content) with
          ⟨hb, -⟩ | ⟨i, c, hb, hbest⟩
        · rw [hb] at h
          cases h
        · rw [hb] at h
          obtain rfl := Option.mem_some.mp h
          exact hbest.hit
      · cases h
    · obtain ⟨path', hp, hknown⟩ := ih h
      exact ⟨path', List.mem_cons_of_mem _ hp, hknown⟩

/-- A path that cannot be read has no reader, and the one that is bound to it is kept. -/
theorem resolvePath_of_unreadable (h : fs.Unreadable f.settings.fingerprintSize path) :
    f.resolvePath fs path = (none, (f.registry.keep path).2) := by
  cases ho : fs.openPath path with
  | error cause => rw [resolvePath, ho]
  | ok opened =>
    cases hf : opened.fingerprint f.settings.fingerprintSize with
    | error cause =>
      rw [resolvePath, ho]
      simp only [Registry.resolve_of_error hf]
    | ok fingerprint =>
      refine absurd ?_ (h fingerprint)
      rw [ho]
      exact hf

/-- A candidate stays where a path of another reader takes another candidate, or none. -/
theorem mem_readers_resolvePath (hd : DistinctPaths f.registry.readers) (hr : r ∈ f.registry.readers)
    (hs : FilePath.same r.path path = false) (ht : f.taken? fs path ≠ some r) :
    r ∈ (f.resolvePath fs path).2.readers := by
  have h := f.resolves fs path
  generalize f.resolvePath fs path = resolved at h
  cases h with
  | kept =>
    rcases f.registry.keep_spec path with hsame | ⟨i, c, hslot, hbound, hkeep⟩
    · rw [hsame]
      exact hr
    · rw [hkeep]
      refine (Registry.mem_readers_take hd.nodup hslot r).mpr ⟨hr, ?_⟩
      rintro rfl
      rw [hbound] at hs
      cases hs
  | empty => exact hr
  | found content ho =>
    refine (Registry.mem_readers_without hd.nodup path _ r).mpr ⟨hr, ?_⟩
    rw [taken?, ho] at ht
    exact ht

theorem mem_readers_resolveAll (hd : DistinctPaths f.registry.readers) (hr : r ∈ f.registry.readers)
    (hs : ∀ path ∈ paths, FilePath.same r.path path = false) (ht : r ∉ takenBy fs f paths) :
    r ∈ (f.resolveAll fs paths).2.registry.readers := by
  induction paths generalizing f with
  | nil => exact hr
  | cons path rest ih =>
    rw [takenBy, List.mem_append, not_or, Option.mem_toList] at ht
    obtain ⟨kept, hsorts⟩ := f.sorts fs [path]
    exact ih (f := { f with registry := (f.resolvePath fs path).2 })
      (hd.sublist (hsorts.readers.map _))
      (mem_readers_resolvePath hd hr (hs path List.mem_cons_self) ht.1)
      (fun q hq => hs q (List.mem_cons_of_mem _ hq)) ht.2

theorem resolveAll_append (f : Follower) (fs : FileSystem) (paths rest : List String) :
    f.resolveAll fs (paths ++ rest) =
      ((f.resolveAll fs paths).1 ++ ((f.resolveAll fs paths).2.resolveAll fs rest).1,
        ((f.resolveAll fs paths).2.resolveAll fs rest).2) := by
  induction paths generalizing f with
  | nil => rfl
  | cons path paths ih =>
    rw [List.cons_append, resolveAll, resolveAll]
    simp only [ih, List.append_assoc]

/-- The candidate whose path cannot be read is carried over, and given up by no path behind it. -/
theorem kept_resolveAll {before : List String} (after : List String)
    (hd : DistinctPaths f.registry.readers) (hr : r ∈ f.registry.readers)
    (hbound : FilePath.same r.path path = true)
    (hbefore : ∀ q ∈ before, FilePath.same r.path q = false) (ht : r ∉ takenBy fs f before)
    (hu : fs.Unreadable f.settings.fingerprintSize path) :
    r ∈ (f.resolveAll fs (before ++ path :: after)).2.registry.current ∧
      r ∉ (f.resolveAll fs (before ++ path :: after)).2.registry.readers := by
  have hstays := mem_readers_resolveAll hd hr hbefore ht
  obtain ⟨before', hsorts⟩ := f.sorts fs before
  have hd' : DistinctPaths (f.resolveAll fs before).2.registry.readers :=
    hd.sublist (hsorts.readers.map _)
  have hsettings := (World.resolveAll_frame f fs before).1
  rw [resolveAll_append]
  generalize (f.resolveAll fs before).2 = g at hstays hd' hsettings
  obtain ⟨i, hslot, hkeep⟩ := Registry.keep_of_mem hd' hstays hbound
  have hpath : g.resolvePath fs path =
      (none, { g.registry.take i with current := g.registry.current ++ [r] }) := by
    rw [resolvePath_of_unreadable (hsettings ▸ hu), hkeep]
  rw [resolveAll, hpath]
  simp only
  obtain ⟨kept, hsorts'⟩ := sorts { g with
    registry := { g.registry.take i with current := g.registry.current ++ [r] } } fs after
  constructor
  · rw [hsorts'.current]
    exact List.mem_append_left _ (List.mem_append_right _ (List.mem_singleton_self r))
  · intro hmem
    obtain ⟨-, hne⟩ :=
      (Registry.mem_readers_take hd'.nodup hslot r).mp (hsorts'.readers.subset hmem)
    exact absurd rfl hne

/-- The only candidate that knows the file at a path goes on with it, unless a file before it took the
candidate. -/
theorem inherits_resolveAll {before : List String} (after : List String) {content : Bytes}
    (hn : 0 < f.settings.fingerprintSize) (hd : DistinctPaths f.registry.readers)
    (hr : r ∈ f.registry.readers) (hbefore : ∀ q ∈ before, FilePath.same r.path q = false)
    (ht : r ∉ takenBy fs f before) (ho : fs.openPath path = .ok (.file content))
    (hc : content ≠ [])
    (hm : r.fingerprint.matchesWith (.ofContent f.settings.fingerprintSize content) = true)
    (hone : ∀ c ∈ f.registry.readers,
      c.fingerprint.matchesWith (.ofContent f.settings.fingerprintSize content) = true → c = r) :
    { Reader.inherit f.settings.toReadSettings fs path
        (.ofContent f.settings.fingerprintSize content) r with
      generation := f.registry.generation } ∈ (f.resolveAll fs (before ++ path :: after)).1 := by
  have hstays := mem_readers_resolveAll hd hr hbefore ht
  obtain ⟨kept, hsorts⟩ := f.sorts fs before
  have hfewer := hsorts.readers.subset
  have hsettings := (World.resolveAll_frame f fs before).1
  have hgeneration := (f.resolveAll_spec fs before).2.generation
  rw [resolveAll_append]
  generalize (f.resolveAll fs before).2 = g at hstays hfewer hsettings hgeneration
  rw [← hsettings] at hn hm hone ⊢
  rw [← hgeneration]
  have hbest : (g.registry.best? path (.ofContent g.settings.fingerprintSize content)).map Prod.snd =
      some r := Registry.best?_eq_of_beats hstays hm fun c hc hcm _ => hone c (hfewer hc) hcm
  have hpath := resolvePath_file hn ho
  rw [if_neg hc, hbest] at hpath
  apply List.mem_append_right
  rw [resolveAll, hpath]
  exact List.mem_cons_self

/-- A file without bytes has no reader. -/
theorem openPath_ne_of_mem_resolveAll (hn : 0 < f.settings.fingerprintSize) (paths : List String)
    (hr : r ∈ (f.resolveAll fs paths).1) : fs.openPath r.path ≠ .ok (.file []) := by
  induction paths generalizing f with
  | nil => exact absurd hr List.not_mem_nil
  | cons path rest ih =>
    rcases List.mem_append.mp hr with hfirst | hrest
    · intro ho
      have hfirst : r ∈ (f.resolvePath fs path).1 := Option.mem_toList.mp hfirst
      have hpath := ((f.resolvePath_spec fs path).1 r hfirst).path_eq
      rw [resolvePath_file hn (hpath ▸ ho), if_pos rfl] at hfirst
      cases hfirst
    · exact ih (f := { f with registry := (f.resolvePath fs path).2 }) hn hrest

end Follower

namespace World

variable {settings : Settings} {w : World} {r : Reader} {path : String} {content : Bytes}

/-- The follower as it is when a poll has begun. -/
def begun (w : World) : Follower := { w.follower with registry := w.follower.registry.beginPoll }

/-! ## A poll that cannot read the file -/

/-- The path that a reader is bound to is found, but nothing can be read there; and no file that is found
before takes the reader. -/
structure Misses (w : World) (r : Reader) (path : String) : Prop where
  bound : FilePath.same r.path path = true
  unreadable : w.fs.Unreadable w.follower.settings.fingerprintSize path
  found : ∃ before after, w.follower.settings.finder.find w.fs = before ++ path :: after ∧
    r ∉ Follower.takenBy w.fs w.begun before

/-- A reader waits during a poll: it is left as it is and not given up, nothing is read at its path, so
that nothing is delivered from there, and its checkpoint is among those that are stored. -/
structure Waits (w : World) (r : Reader) : Prop where
  stays : r ∈ w.poll.2.follower.registry.readers
  not_retired : r ∉ w.settled.follower.registry.endPoll.1
  unread : ∀ x ∈ w.readings.1 ++ w.flushes.1, FilePath.same x.reader.path r.path = false
  delivered : w.poll.2.sink.accepted =
    w.sink.accepted ++ (w.readings.1 ++ w.flushes.1).flatMap (·.delivered)
  checkpoint : r.checkpoint ∈ w.poll.2.follower.registry.checkpoints
  stored : w.poll.2.follower.store = w.follower.store.persist w.follower.settings.id
    w.poll.2.follower.registry.checkpoints

theorem poll_persists (w : World) :
    w.poll.2.follower.store = w.follower.store.persist w.follower.settings.id
      w.poll.2.follower.registry.checkpoints := by
  obtain ⟨hsettings, hstore, -⟩ := foldl_settle_frame (w.readings.1.map Passage.reading) w.hasRead
  have hid : w.poll.2.follower.settings = w.follower.settings := by
    rw [poll_snd]
    exact hsettings.trans w.resolved_settings
  have hbefore : w.settled.follower.store = w.follower.store :=
    hstore.trans (resolveAll_frame w.begun w.fs _).2.1
  rw [store_poll, hid, hbefore]

/-- Other spellings of a path are not found. -/
theorem not_same_before {before after : List String}
    (h : w.follower.settings.finder.find w.fs = before ++ path :: after)
    (hb : FilePath.same r.path path = true) : ∀ q ∈ before, FilePath.same r.path q = false := by
  intro q hq
  have hpair := w.follower.settings.finder.find_pairwise w.fs
  rw [h, List.pairwise_append] at hpair
  have hne := hpair.2.2 q hq path List.mem_cons_self
  rw [← Bool.not_eq_true, FilePath.same_iff] at hne ⊢
  intro heq
  exact hne (heq.symm.trans (FilePath.same_iff.mp hb))

theorem Misses.waits (h : w.Misses r path) (hi : w.follower.Idle settings)
    (hc : settings.framing.CutsFront) (hd : DistinctPaths w.follower.registry.readers)
    (hr : r ∈ w.follower.registry.readers) : w.Waits r := by
  obtain ⟨before, after, hfind, ht⟩ := h.found
  obtain ⟨hkept, hleft⟩ := Follower.kept_resolveAll (f := w.begun) after hd hr h.bound
    (not_same_before hfind h.bound) ht h.unreadable
  rw [← hfind] at hkept hleft
  have hkept : r ∈ w.resolved.2.registry.current := hkept
  have hleft : r ∉ w.resolved.2.registry.readers := hleft
  obtain ⟨kept, hsorts, hdistinct⟩ := w.sorts
  have hcurrent : w.resolved.2.registry.current = kept :=
    hsorts.current.trans (congrArg (· ++ kept) hi.current)
  have hstays : r ∈ w.poll.2.follower.registry.readers := by
    obtain ⟨tracked, htracked, -⟩ :=
      current_foldl_settle (w.readings.1.map (·.reading)) w.hasRead
    rw [readers_poll, settled, htracked]
    exact List.mem_append_left tracked hkept
  refine ⟨hstays, ?_, ?_, accepted_poll (hi.settings_eq ▸ hc), List.mem_map_of_mem hstays,
    w.poll_persists⟩
  · show r ∉ w.settled.follower.registry.readers
    rw [readers_settled]
    exact hleft
  · intro x hx
    rw [← Bool.not_eq_true, FilePath.same_iff]
    intro hsame
    rcases List.mem_append.mp hx with hx | hx
    · -- the readers that were found, and those that were carried over, have different paths
      rw [DistinctPaths, List.map_append, List.nodup_append] at hdistinct
      exact hdistinct.2.2 _ (List.mem_map_of_mem (hcurrent ▸ hkept)) _
        (List.mem_map_of_mem (reader_mem_of_mem_readings hx)) hsame.symm
    · have hx := reader_mem_of_mem_flushes hx
      have heq : x.reader = r :=
        List.inj_on_of_nodup_map hd (hsorts.readers.subset hx) hr hsame
      exact hleft (heq ▸ hx)

/-! ## A poll that can read it again -/

/-- The path that a reader is bound to is found, and there is a file with some content. No other reader
knows it, and the reader knows none of the other files that are found. -/
structure Meets (w : World) (r : Reader) (path : String) (content : Bytes) : Prop where
  bound : FilePath.same r.path path = true
  found : path ∈ w.follower.settings.finder.find w.fs
  opened : w.fs.openPath path = .ok (.file content)
  only_reader : ∀ c ∈ w.follower.registry.readers, c.fingerprint.matchesWith
    (.ofContent w.follower.settings.fingerprintSize content) = true → c = r
  only_file : ∀ q ∈ w.follower.settings.finder.find w.fs, q ≠ path → ∀ other,
    w.fs.openPath q = .ok (.file other) → r.fingerprint.matchesWith
      (.ofContent w.follower.settings.fingerprintSize other) = false

/-- In this reading of a poll a reader goes on: the reading begins with what the reader has noted, under
the path and with the fingerprint of the file, it does not begin anew, and what it delivers are slices of
the file that do not begin before the offset. -/
structure GoesOn (w : World) (r : Reader) (path : String) (content : Bytes) (x : Passage) : Prop where
  read : x ∈ w.readings.1
  reader : x.reader =
    { path
      fingerprint := .ofContent w.follower.settings.fingerprintSize content
      offset := r.offset
      lastSeenSize := r.lastSeenSize
      generation := w.follower.registry.generation + 1
      header := r.header
      fileAttributes := w.follower.settings.fileAttributes.attributes w.fs path }
  reading : x.reading = x.reader.readOpened w.follower.settings.toReadSettings x.before
    (.file content) w.follower.settings.deleteAfterRead
  delivered : ∃ excerpts : List Excerpt, x.delivered = excerpts.map (·.event) ∧
    Excerpts w.follower.settings.toReadSettings content r.offset x.reading.reader.offset excerpts

theorem Meets.goesOn {more : Bytes} (h : w.Meets r path (content ++ more)) (hread : r.HasRead content)
    (hn : 0 < w.follower.settings.fingerprintSize) (hc : w.follower.settings.framing.CutsFront)
    (hd : DistinctPaths w.follower.registry.readers) (hr : r ∈ w.follower.registry.readers) :
    ∃ x, w.GoesOn r path (content ++ more) x := by
  obtain ⟨before, after, hfind⟩ := List.append_of_mem h.found
  have hne : content ++ more ≠ [] := by
    intro hnil
    rw [List.append_eq_nil_iff] at hnil
    exact hread.known (List.prefix_nil.mp (hnil.1 ▸ hread.beginning))
  have ht : r ∉ Follower.takenBy w.fs w.begun before := by
    intro hmem
    obtain ⟨q, hq, other, ho, hm⟩ := Follower.exists_of_mem_takenBy hmem
    have hqne : q ≠ path := by
      rintro rfl
      exact (Finder.split_spec hfind).1 hq
    have hmiss := h.only_file q (hfind ▸ List.mem_append_left _ hq) hqne other ho
    rw [show r.fingerprint.matchesWith (.ofContent w.follower.settings.fingerprintSize other) = true
      from hm] at hmiss
    cases hmiss
  have hmem := Follower.inherits_resolveAll (f := w.begun) after hn hd hr
    (not_same_before hfind h.bound) ht h.opened hne (hread.matchesWith more hn) h.only_reader
  rw [← hfind] at hmem
  have hmap : w.readings.1.map (·.reader) = w.resolved.1 := map_reader_passages _ _ _
  obtain ⟨x, hx, hreader⟩ := List.mem_map.mp (show _ ∈ w.readings.1.map (·.reader) from hmap ▸ hmem)
  have hreading : x.reading = x.reader.readToEnd w.follower.settings.toReadSettings w.fs x.before :=
    reading_of_mem_passages hx
  have hpath : x.reader.path = path := by rw [hreader]; rfl
  have hoffset : x.reader.offset = r.offset := by rw [hreader]; rfl
  have hle : x.reader.offset ≤ (content ++ more).length := by
    rw [hoffset, List.length_append]
    have := hread.offset
    omega
  have hopen : w.fs.openPath x.reader.path = .ok (.file (content ++ more)) := hpath ▸ h.opened
  have hopened := hreading.trans (Reader.read_of_openPath hopen hle x.before _)
  refine ⟨x, hx, hreader, hopened, ?_⟩
  obtain ⟨excerpts, hq⟩ := Reader.readOpened_quotes hc (.file (content ++ more))
    (Source.stream_ofContent (content ++ more) x.reader.offset x.reader.fingerprint
      w.follower.settings.fingerprintSize).symm hle x.before w.follower.settings.deleteAfterRead
  rw [← hopened] at hq
  refine ⟨excerpts, ?_, hoffset ▸ hq.excerpts⟩
  rw [Passage.delivered, hq.accepted, List.drop_left]

/-- A reader that a poll has found has read the file at its path. -/
theorem hasRead_of_mem_poll (hn : 0 < w.follower.settings.fingerprintSize)
    (hc : w.follower.settings.framing.CutsFront) (hr : r ∈ w.poll.2.follower.registry.readers)
    (hfound : r ∉ w.kept) :
    ∃ content, w.fs.openPath r.path = .ok (.file content) ∧ r.HasRead content := by
  obtain ⟨tracked, htracked, hsub⟩ :=
    current_foldl_settle (w.readings.1.map (·.reading)) w.hasRead
  rw [readers_poll, settled, htracked] at hr
  have hr := (List.mem_append.mp hr).resolve_left hfound
  obtain ⟨reading, hm, rfl⟩ := List.mem_map.mp (hsub.subset hr)
  obtain ⟨x, hx, rfl⟩ := List.mem_map.mp hm
  obtain ⟨content, ho, hmeasures⟩ := measures_readings hc hx
  have hreading : x.reading = x.reader.readToEnd w.follower.settings.toReadSettings w.fs x.before :=
    reading_of_mem_passages hx
  have hpath : x.reading.reader.path = x.reader.path := by
    rw [hreading, Reader.readToEnd, (Reader.read_keeps _ _ _ _ _).path]
  refine ⟨content, hpath ▸ ho, ?_, ?_, hmeasures.offset⟩
  · have hne : content ≠ [] := by
      rintro rfl
      exact Follower.openPath_ne_of_mem_resolveAll (f := w.begun) hn _
        (reader_mem_of_mem_readings hx) ho
    rw [hmeasures.fingerprint, Fingerprint.ofContent, ne_eq, List.take_eq_nil_iff]
    rintro (hzero | hnil)
    · omega
    · exact hne hnil
  · rw [hmeasures.fingerprint]
    exact List.take_prefix _ _

end World

namespace Follower

variable {settings : Settings} {r : Reader} {f f' : Follower}

/-! ## Any number of polls -/

/-- Polls one after another lead from a follower to another one, each of which misses the file of a
reader. -/
inductive Delayed (r : Reader) (f : Follower) : Follower → Prop
  | nothing : Delayed r f f
  | poll {f' : Follower} (fs : FileSystem) (sink : Sink) (path : String) : Delayed r f f' →
      World.Misses ⟨f', fs, sink⟩ r path → Delayed r f (World.poll ⟨f', fs, sink⟩).2.follower

/-- A follower between its polls that has a reader, and no two readers with one path. -/
structure Holds (settings : Settings) (f : Follower) (r : Reader) : Prop where
  idle : f.Idle settings
  distinct : DistinctPaths f.registry.readers
  reader : r ∈ f.registry.readers

theorem Delayed.holds (hc : settings.framing.CutsFront) (h : Delayed r f f') (hf : f.Holds settings r) :
    f'.Holds settings r := by
  induction h with
  | nothing => exact hf
  | @poll f' fs sink path _ hmisses ih =>
    have hwaits := hmisses.waits ih.idle hc ih.distinct ih.reader
    constructor
    · exact World.poll_idle ⟨f', fs, sink⟩ ih.idle
    · exact World.distinctPaths_poll (w := ⟨f', fs, sink⟩) ih.idle
    · exact hwaits.stays

/-- **A file that cannot be opened keeps its place.** Take a reader that a follower has after some poll,
however the follower has come there; if the poll has found it, the reader has read the file at its path.
Whatever number of polls miss its file, in each of them the reader waits; and when a poll meets the file
again, with bytes appended, the reader goes on. -/
theorem Reachable.keeps_place {c : Config} (hbuild : c.build = .ok settings) {w : World}
    (h : w.follower.Reachable (fun _ => True) settings)
    (hr : r ∈ w.poll.2.follower.registry.readers) :
    (r ∉ w.kept → ∃ content, w.fs.openPath r.path = .ok (.file content) ∧ r.HasRead content) ∧
      ∀ f, Delayed r w.poll.2.follower f → ∀ fs sink path,
        (World.Misses ⟨f, fs, sink⟩ r path → World.Waits ⟨f, fs, sink⟩ r) ∧
          ∀ content more, r.HasRead content → World.Meets ⟨f, fs, sink⟩ r path (content ++ more) →
            ∃ x, World.GoesOn ⟨f, fs, sink⟩ r path (content ++ more) x := by
  have hc : settings.framing.CutsFront := (Config.lawful_of_build hbuild).cutsFront
  have hn : 0 < settings.fingerprintSize := (Config.built_of_build hbuild).fingerprintSize_pos
  have hsettings := h.idle.settings_eq
  have hfirst : w.poll.2.follower.Holds settings r :=
    ⟨w.poll_idle h.idle, World.distinctPaths_poll h.idle, hr⟩
  refine ⟨World.hasRead_of_mem_poll (hsettings ▸ hn) (hsettings ▸ hc) hr, ?_⟩
  intro f hdelayed fs sink path
  have hf := hdelayed.holds hc hfirst
  refine ⟨fun hmisses => hmisses.waits hf.idle hc hf.distinct hf.reader, ?_⟩
  intro content more hread hmeets
  have hfs := hf.idle.settings_eq
  exact hmeets.goesOn hread (hfs ▸ hn) (hfs ▸ hc) hf.distinct hf.reader

end Follower

/-! ## A log file that is lost for one poll -/

/-- The home directory holds a link under the name of a log file, which leads nowhere. -/
def FileSystem.lostLog : FileSystem := .ofHome [("a.log", .link "nowhere")]

theorem FileSystem.resolve_lostLog : lostLog.resolve true "a.log" = .error .notFound := by
  have hname := isName_logs.1
  have hhome : lostLog.node? ["work"] = some .directory := rfl
  have hnowhere : lostLog.locate true 39 ["work"] ["nowhere"] = .ok ["work", "nowhere"] := by
    rw [locate, hhome]
    rfl
  have hlocate : lostLog.locate true linkLimit ["work"] ["a.log"] = .ok ["work", "nowhere"] := by
    have hlink : lostLog.node? (["work"] ++ ["a.log"]) = some (.link "nowhere") := rfl
    rw [locate, hhome]
    simp only [if_neg hname.dot, if_neg hname.dots, if_neg (Nat.not_lt.mpr hname.short), hlink]
    exact hnowhere
  have hfind : lostLog.find true "a.log" = .ok ["work", "nowhere"] := by
    rw [find, hname.check, hname.steps, origin, hname.relative]
    exact hlocate
  rw [resolve, hfind]
  rfl

theorem FileSystem.openPath_lostLog : lostLog.openPath "a.log" = .error .notFound := by
  rw [openPath, resolve_lostLog]
  rfl

theorem Finder.find_lostLog : logs.find .lostLog = ["a.log"] := by
  have hpaths : Glob.paths .lostLog "*.log" = ["a.log"] :=
    Glob.paths_ofHome _ (List.pairwise_singleton _ _) (by simp [Glob.isLog_logs])
  have hwants : logs.wants .lostLog "a.log" = true := by
    rw [wants, FileSystem.isDirectory, FileSystem.resolve_lostLog]
    rfl
  rw [find]
  change firstSpellings ["work"] [] ((Glob.paths .lostLog "*.log" ++ []).filter _) = _
  rw [hpaths, List.append_nil, List.filter_cons_of_pos hwants]
  decide +kernel

/-- A poll in which one of two log files, which were read, is lost, and the other one is removed. -/
def lostPoll : World where
  follower := (World.ofLogs [0x78, 0x0A] [0x79, 0x0A]).poll.2.follower
  fs := .lostLog
  sink := .healthy

/-- The next poll, in which the lost log file is there again, and has grown. -/
def foundPoll : World where
  follower := lostPoll.poll.2.follower
  fs := .twoLogs [0x78, 0x0A, 0x7A, 0x0A] [0x79, 0x0A]
  sink := .healthy

/-- The reader of the log file that is lost. -/
def lostReader : Reader := .behindLog (.twoLogs [0x78, 0x0A] [0x79, 0x0A]) "a.log" [0x78, 0x0A]

/-- The follower of the two log files has just begun. -/
theorem World.reachable_twoLogs : (World.ofLogs [0x78, 0x0A] [0x79, 0x0A]).follower.Reachable
    (fun _ => True) .logs := .new ⟨false, []⟩

theorem World.idle_lostPoll : lostPoll.follower.Idle .logs :=
  World.poll_idle _ reachable_twoLogs.idle

theorem World.mem_readers_lostPoll : lostReader ∈ lostPoll.follower.registry.readers := by
  have hreaders : lostPoll.follower.registry.readers = [lostReader,
      .behindLog (.twoLogs [0x78, 0x0A] [0x79, 0x0A]) "b.log" [0x79, 0x0A]] :=
    readers_ofLogs (by decide) (by decide) ⟨by decide, by decide⟩ ⟨by decide, by decide⟩
  rw [hreaders]
  exact List.mem_cons_self

theorem World.find_lostPoll :
    lostPoll.follower.settings.finder.find lostPoll.fs = ["a.log"] := by
  rw [idle_lostPoll.settings_eq]
  exact Finder.find_lostLog

theorem World.misses_lostPoll : lostPoll.Misses lostReader "a.log" := by
  refine ⟨by decide +kernel, ?_, [], [], find_lostPoll, List.not_mem_nil⟩
  intro fingerprint
  show (FileSystem.lostLog.openPath "a.log").bind _ ≠ _
  rw [FileSystem.openPath_lostLog]
  exact nofun

/-- The poll carries the lost reader over, and finds no file. -/
theorem World.readers_foundPoll : foundPoll.follower.registry.readers = [lostReader] := by
  have hdistinct : DistinctPaths lostPoll.begun.registry.readers :=
    distinctPaths_poll (w := .ofLogs [0x78, 0x0A] [0x79, 0x0A]) reachable_twoLogs.idle
  obtain ⟨i, -, hkeep⟩ :=
    Registry.keep_of_mem hdistinct mem_readers_lostPoll misses_lostPoll.bound
  have hresolved : lostPoll.resolved =
      ([], { lostPoll.begun with registry := (lostPoll.begun.registry.keep "a.log").2 }) := by
    show lostPoll.begun.resolveAll lostPoll.fs (lostPoll.follower.settings.finder.find _) = _
    rw [find_lostPoll, Follower.resolveAll,
      Follower.resolvePath_of_unreadable (f := lostPoll.begun) misses_lostPoll.unreadable]
    rfl
  have hcurrent : lostPoll.resolved.2.registry.current = [lostReader] := by
    rw [hresolved]
    show (lostPoll.begun.registry.keep "a.log").2.current = _
    rw [hkeep]
    exact congrArg (· ++ [lostReader]) idle_lostPoll.current
  have hkeeps : lostPoll.follower.settings.deleteAfterRead = false := by
    rw [idle_lostPoll.settings_eq]
    rfl
  show lostPoll.poll.2.follower.registry.readers = _
  rw [(polled hkeeps).readers, hcurrent, readings, hresolved]
  rfl

theorem World.meets_foundPoll :
    foundPoll.Meets lostReader "a.log" ([0x78, 0x0A] ++ [0x7A, 0x0A]) := by
  have hsettings : foundPoll.follower.settings = .logs :=
    (lostPoll.poll_idle idle_lostPoll).settings_eq
  have hfound : foundPoll.follower.settings.finder.find foundPoll.fs = ["a.log", "b.log"] := by
    rw [hsettings]
    exact Finder.find_twoLogs _ _
  obtain ⟨hoa, hob⟩ := FileSystem.openPath_twoLogs [0x78, 0x0A, 0x7A, 0x0A] [0x79, 0x0A]
  refine ⟨by decide +kernel, by simp [hfound], hoa, ?_, ?_⟩
  · intro c hc _
    rw [readers_foundPoll] at hc
    exact List.mem_singleton.mp hc
  · intro q hq hne other ho
    rw [hfound] at hq
    obtain rfl : q = "b.log" := by simpa [hne] using hq
    obtain rfl : [0x79, 0x0A] = other := by
      cases hob.symm.trans ho
      rfl
    rw [hsettings]
    decide +kernel

namespace Follower

theorem keeps_place_lostPoll :
    lostReader ∈ lostPoll.follower.registry.readers ∧ lostPoll.Misses lostReader "a.log" ∧
      lostPoll.Waits lostReader ∧ lostReader.HasRead [0x78, 0x0A] ∧
      foundPoll.Meets lostReader "a.log" ([0x78, 0x0A] ++ [0x7A, 0x0A]) ∧
      ∃ x, foundPoll.GoesOn lostReader "a.log" ([0x78, 0x0A] ++ [0x7A, 0x0A]) x := by
  have hbuild : Config.logs.build = .ok .logs := by rfl
  have hread : lostReader.HasRead [0x78, 0x0A] := ⟨by decide, by decide, by decide⟩
  have hmisses := World.misses_lostPoll
  have hmeets := World.meets_foundPoll
  obtain ⟨-, hplace⟩ :=
    Reachable.keeps_place hbuild World.reachable_twoLogs World.mem_readers_lostPoll
  have hlost := hplace _ .nothing .lostLog .healthy "a.log"
  have hback := hplace _ (.poll .lostLog .healthy "a.log" .nothing hmisses)
    (.twoLogs [0x78, 0x0A, 0x7A, 0x0A] [0x79, 0x0A]) .healthy "a.log"
  exact ⟨World.mem_readers_lostPoll, hmisses, hlost.1 hmisses, hread, hmeets,
    hback.2 _ _ hread hmeets⟩

end Follower

end LogFollow
