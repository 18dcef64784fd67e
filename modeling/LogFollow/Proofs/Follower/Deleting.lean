import LogFollow.Proofs.Finder
import LogFollow.Proofs.Follower.Known
import LogFollow.Proofs.Follower.Reachable
import LogFollow.Proofs.Reader.Completion

/-!
# Files that are deleted when they are read

A follower may delete each file that it has read to its end. Whatever the sinks do, a file that is deleted
has been delivered before, and a file that is not deleted has a reader that stands where the events of the
file say. The invariant of the polls ties the events of each file to its reader, or to the whole file if it
is gone.
-/
namespace LogFollow

/-- The settings of a follower that reads all lines of its files, from their beginning, and deletes each
file when it is read. Its fingerprints have some bytes. -/
structure Settings.Deleting (settings : Settings) : Prop where
  plain : settings.toReadSettings.Plain
  deletes : settings.deleteAfterRead = true
  recognises : 0 < settings.fingerprintSize
  beginning : settings.startAt = .beginning

/-- What a configuration must ask for. -/
theorem Config.deleting_of_build {c : Config} {settings : Settings} (h : c.build = .ok settings)
    (he : settings.encoding.codeUnit = 1) (hm : c.multiline = none)
    (hr : c.attributeRegex = none) (hsized : settings.framing.Sized settings.maxLogSize)
    (hd : c.deleteAfterRead = true) (hs : c.startAt = .beginning) : settings.Deleting := by
  obtain ⟨hplain, hsize⟩ := plain_of_build h he hm hr hsized
  have hbuilt := built_of_build h
  exact ⟨hplain, hbuilt.deleteAfterRead.trans hd, hsize, hbuilt.startAt.trans hs⟩

/-! ## Files to read -/

/-- The files that are to be read, by their paths. -/
abbrev Stock := String → Option Bytes

namespace Stock

/-- Each file has bytes, but no stretch without a newline is too long, and no two files have fingerprints
that match. -/
structure Separate (settings : ReadSettings) (stock : Stock) : Prop where
  nonempty : ∀ path bytes, stock path = some bytes → bytes ≠ []
  short : ∀ path bytes, stock path = some bytes → Lines.Short settings.maxLogSize bytes
  apart : ∀ p q bytes bytes', stock p = some bytes → stock q = some bytes' → p ≠ q →
    (Fingerprint.ofContent settings.fingerprintSize bytes).matchesWith
      (.ofContent settings.fingerprintSize bytes') = false

/-- The files of `left` are files of `stock`. -/
def Within (left stock : Stock) : Prop :=
  ∀ path bytes, left path = some bytes → stock path = some bytes

/-- The files stand in the file system, and the finder finds just these. -/
structure Held (finder : Finder) (fs : FileSystem) (stock : Stock) : Prop where
  tree : fs.Tree
  regular : ∀ path bytes, stock path = some bytes → fs.Regular path bytes
  found : ∀ path, path ∈ finder.find fs ↔ ∃ bytes, stock path = some bytes

/-- The files but for those at some paths. -/
def without (stock : Stock) (paths : List String) : Stock :=
  fun path => if path ∈ paths then none else stock path

variable {settings : ReadSettings} {left stock : Stock} {path : String} {bytes : Bytes}

theorem without_eq_some_iff {paths : List String} :
    stock.without paths path = some bytes ↔ path ∉ paths ∧ stock path = some bytes := by
  rw [without, Option.ite_none_left_eq_some]

theorem without_without (stock : Stock) (paths more : List String) :
    (stock.without paths).without more = stock.without (paths ++ more) := by
  funext path
  simp only [without, List.mem_append]
  grind

theorem Separate.of_within (h : stock.Separate settings) (hw : left.Within stock) :
    left.Separate settings where
  nonempty path bytes hl := h.nonempty path bytes (hw path bytes hl)
  short path bytes hl := h.short path bytes (hw path bytes hl)
  apart p q bytes bytes' hp hq := h.apart p q bytes bytes' (hw p bytes hp) (hw q bytes' hq)

/-- Different files have different bytes. -/
theorem Separate.injective (h : stock.Separate settings) (hn : 0 < settings.fingerprintSize)
    {p q : String} {bytes : Bytes} (hp : stock p = some bytes) (hq : stock q = some bytes) :
    p = q := by
  by_contra hne
  have hself := Fingerprint.ofContent_matchesWith_self hn (h.nonempty p bytes hp)
  rw [h.apart p q bytes bytes hp hq hne] at hself
  cases hself

/-- A file can be deleted, and the others stand and are found as before. -/
theorem Held.delete {finder : Finder} {fs : FileSystem} (h : left.Held finder fs)
    (hi : ∀ p q bytes, left p = some bytes → left q = some bytes → p = q)
    (hl : left path = some bytes) : ∃ fs', fs.remove path = .ok fs' ∧ fs'.Vacant path ∧
      (∀ p, fs.Vacant p → fs'.Vacant p) ∧ (left.without [path]).Held finder fs' := by
  obtain ⟨place, fs', hfind, hplace, hremove, hloses, hvacant⟩ := (h.regular _ _ hl).remove h.tree
  have hother {p : String} {bytes' : Bytes} (hp : left p = some bytes') (hne : p ≠ path) :
      fs.node? place ≠ some (.file bytes') := by
    rw [hplace]
    rintro ⟨⟩
    exact hne (hi p path bytes hp hl)
  refine ⟨fs', hremove, hvacant, fun p hp => hloses.vacant hp, hloses.tree h.tree,
    fun p bytes' hp => ?_, fun p => ?_⟩
  · obtain ⟨hne, hp⟩ := without_eq_some_iff.mp hp
    exact hloses.regular (h.regular p bytes' hp) (hother hp (by simpa using hne))
  · rw [Finder.find_loses h.tree hloses, List.mem_filter, h.found, ← exists_and_right]
    simp only [without_eq_some_iff]
    refine exists_congr fun bytes' => ?_
    rw [and_comm]
    refine and_congr_left fun hp => ?_
    by_cases he : p = path
    · rw [he, FileSystem.leadsTo_of_find hfind]
      simp
    · obtain ⟨place', hfind', hplace'⟩ := (h.regular p bytes' hp).find
      rw [FileSystem.leadsTo_of_find (hfind' false)]
      have hne : place' ≠ place := fun hsame => hother hp he (hsame ▸ hplace')
      simp [he, hne]

end Stock

/-! ## Handing readers back, or deleting their files -/

namespace World

theorem deletes_iff {settings : ReadSettings} (hd : settings.deleteAfterRead = true)
    (outcome : Except Error ReadOutcome) :
    deletes settings outcome = true ↔ ∃ n, outcome = .ok ⟨n, true⟩ := by
  unfold deletes
  cases outcome with
  | error e => simp
  | ok o =>
    obtain ⟨n, reached⟩ := o
    simp [hd]

/-- The paths of the readings whose files are deleted. -/
def deletedBy (settings : ReadSettings) (readings : List Reading) : List String :=
  (readings.filter fun reading => deletes settings reading.outcome).map (·.reader.path)

theorem deletedBy_cons {settings : ReadSettings} {reading : Reading} {rest : List Reading} :
    deletedBy settings (reading :: rest) =
      (if deletes settings reading.outcome then [reading.reader.path] else []) ++
        deletedBy settings rest := by
  rw [deletedBy, deletedBy, List.filter_cons]
  split
  · rfl
  · rfl

/-- What becomes of the files when readings are settled: those that were read to their end are gone, the
others stand and are found as before, and their readers have been handed back. -/
structure Settles (finder : Finder) (left : Stock) (readings : List Reading) (w w' : World) :
    Prop where
  held : (left.without (deletedBy w.follower.settings.toReadSettings readings)).Held finder w'.fs
  gone : ∀ path ∈ deletedBy w.follower.settings.toReadSettings readings, w'.fs.Vacant path
  vacant : ∀ path, w.fs.Vacant path → w'.fs.Vacant path
  current : w'.follower.registry.current = w.follower.registry.current ++
    (readings.filter fun reading =>
      !deletes w.follower.settings.toReadSettings reading.outcome).map (·.reader)

section

variable {finder : Finder} {left : Stock} {reading : Reading} {rest : List Reading} {w w' : World}

/-- The first file is deleted, and is no longer among those that are left. -/
theorem Settles.delete {fs : FileSystem}
    (hdel : deletes w.follower.settings.toReadSettings reading.outcome = true)
    (hgone : fs.Vacant reading.reader.path) (hvacant : ∀ path, w.fs.Vacant path → fs.Vacant path)
    (h : Settles finder (left.without [reading.reader.path]) rest { w with fs } w') :
    Settles finder left (reading :: rest) w w' := by
  have hdeleted : deletedBy w.follower.settings.toReadSettings (reading :: rest) =
      [reading.reader.path] ++ deletedBy w.follower.settings.toReadSettings rest := by
    rw [deletedBy_cons, if_pos hdel]
  refine ⟨?_, fun path hm => ?_, fun path hv => h.vacant path (hvacant path hv), ?_⟩
  · rw [hdeleted, ← Stock.without_without]
    exact h.held
  · rw [hdeleted] at hm
    rcases List.mem_append.mp hm with hm | hm
    · rw [List.mem_singleton.mp hm]
      exact h.vacant _ hgone
    · exact h.gone path hm
  · rw [h.current, List.filter_cons, hdel]
    rfl

/-- The first reader is handed back. -/
theorem Settles.track (hdel : ¬ deletes w.follower.settings.toReadSettings reading.outcome = true)
    (h : Settles finder left rest
      { w with follower.registry := w.follower.registry.track reading.reader } w') :
    Settles finder left (reading :: rest) w w' := by
  have hdeleted : deletedBy w.follower.settings.toReadSettings (reading :: rest) =
      deletedBy w.follower.settings.toReadSettings rest := by
    rw [deletedBy_cons, if_neg hdel, List.nil_append]
  refine ⟨?_, fun path hm => ?_, h.vacant, ?_⟩
  · rw [hdeleted]
    exact h.held
  · rw [hdeleted] at hm
    exact h.gone path hm
  · rw [h.current, List.filter_cons, Bool.eq_false_iff.mpr hdel, Registry.track]
    exact List.append_assoc _ _ _

theorem settles_foldl {readings : List Reading} (hd : (readings.map (·.reader.path)).Nodup)
    (hh : left.Held finder w.fs)
    (hi : ∀ p q bytes, left p = some bytes → left q = some bytes → p = q)
    (hl : ∀ reading ∈ readings, ∃ bytes, left reading.reader.path = some bytes) :
    Settles finder left readings w (readings.foldl settle w) := by
  induction readings generalizing left w with
  | nil =>
    exact ⟨hh, fun _ h => absurd h List.not_mem_nil, fun _ h => h, (List.append_nil _).symm⟩
  | cons reading rest ih =>
    obtain ⟨hfirst, hrest⟩ := List.nodup_cons.mp hd
    obtain ⟨⟨bytes, hb⟩, hlrest⟩ := List.forall_mem_cons.mp hl
    rw [List.foldl_cons]
    by_cases hdel : deletes w.follower.settings.toReadSettings reading.outcome = true
    · obtain ⟨fs, hremove, hgone, hvacant, hheld⟩ := hh.delete hi hb
      have hsettle : settle w reading = { w with fs } := by
        rw [settle, if_pos hdel, hremove]
      rw [hsettle]
      refine .delete hdel hgone hvacant (ih hrest hheld ?_ ?_)
      · intro p q bytes' hp hq
        exact hi p q bytes' (Stock.without_eq_some_iff.mp hp).2 (Stock.without_eq_some_iff.mp hq).2
      · intro reading' hm
        obtain ⟨bytes', hb'⟩ := hlrest reading' hm
        refine ⟨bytes', Stock.without_eq_some_iff.mpr ⟨fun he => ?_, hb'⟩⟩
        exact hfirst (List.mem_map.mpr ⟨reading', hm, List.mem_singleton.mp he⟩)
    · have hsettle : settle w reading =
          { w with follower.registry := w.follower.registry.track reading.reader } := by
        rw [settle, if_neg hdel]
      rw [hsettle]
      exact .track hdel (ih hrest hh hi hlrest)

end

end World

/-! ## A poll -/

namespace Follower

/-- The events of each file that is left are those of the beginning that its reader has consumed, or there
are neither; of each file that is gone they are those of the whole file. -/
structure Tends (settings : Settings) (stock left : Stock) (log : String → List Event)
    (f : Follower) : Prop where
  settings_eq : f.settings = settings
  beginning : f.registry.startAtBeginning = true
  current : f.registry.current = []
  within : left.Within stock
  distinct : (f.registry.readers.map (·.path)).Nodup
  consumed : ∀ r ∈ f.registry.readers, ∃ front back, left r.path = some (front ++ back) ∧
    r.Consumed settings.toReadSettings (log r.path) front back
  unread : ∀ path bytes, left path = some bytes → (∀ r ∈ f.registry.readers, r.path ≠ path) →
    log path = []
  gone : ∀ path bytes, stock path = some bytes → left path = none →
    (log path).map (·.body) = (Lines.tokens bytes).map settings.encoding.body

variable {settings : Settings} {stock left : Stock} {log : String → List Event} {f : Follower}

/-- A follower that has loaded an empty store has read nothing, and all files are left. -/
theorem tends_new (hs : settings.Deleting) {store : CheckpointStore}
    (he : store.load settings.id = .ok []) {fs : FileSystem}
    (hf : (new settings store).load fs = .ok f) :
    Tends settings stock stock (fun _ => []) f := by
  have hload : (new settings store).store.load (new settings store).settings.id = .ok [] := he
  rw [load, hload] at hf
  obtain rfl := Except.ok.inj hf
  refine ⟨rfl, decide_eq_true hs.beginning, rfl, fun _ _ h => h, .nil, ?_, fun _ _ _ _ => rfl, ?_⟩
  · exact fun r hr => absurd hr List.not_mem_nil
  · intro path bytes h hn
    rw [h] at hn
    cases hn

end Follower

namespace World

open Follower (Tends)

/-- The files that are still there when a poll has ended. -/
def leaves (w : World) (left : Stock) : Stock := fun path =>
  if w.poll.2.fs.present path then left path else none

variable {settings : Settings} {stock left : Stock} {log : String → List Event} {w : World}

/-- A poll begins with the files that are left where they stood, and with each reader where the events of
its file say. -/
structure Stocked (settings : Settings) (stock left : Stock) (log : String → List Event)
    (w : World) : Prop where
  separate : stock.Separate settings.toReadSettings
  tends : Tends settings stock left log w.follower
  held : left.Held settings.finder w.fs

/-- A candidate that knows a file is the reader of its path. -/
theorem Stocked.path_eq (h : Stocked settings stock left log w) {path : String} {bytes : Bytes}
    (hl : left path = some bytes) {r : Reader} (hr : r ∈ w.follower.registry.readers)
    (hm : r.fingerprint.matchesWith (.ofContent settings.fingerprintSize bytes) = true) :
    r.path = path := by
  obtain ⟨front, back, hleft, hconsumed⟩ := h.tends.consumed r hr
  by_contra hne
  rw [hconsumed.fingerprint, h.separate.apart r.path path _ bytes (h.tends.within _ _ hleft)
    (h.tends.within _ _ hl) hne] at hm
  cases hm

/-- The reader of a path knows the file there. -/
theorem Stocked.own (h : Stocked settings stock left log w) (hs : settings.Deleting)
    {bytes : Bytes} {r : Reader} (hr : r ∈ w.follower.registry.readers)
    (hl : left r.path = some bytes) :
    r.fingerprint.matchesWith (.ofContent settings.fingerprintSize bytes) = true := by
  obtain ⟨front, back, hleft, hconsumed⟩ := h.tends.consumed r hr
  obtain rfl : front ++ back = bytes := Option.some.inj (hleft.symm.trans hl)
  rw [hconsumed.fingerprint]
  exact Fingerprint.ofContent_matchesWith_self hs.recognises
    (h.separate.nonempty r.path _ (h.tends.within _ _ hl))

theorem Stocked.openPath (h : Stocked settings stock left log w) {path : String}
    (hp : path ∈ settings.finder.find w.fs) : ∃ bytes, left path = some bytes ∧ bytes ≠ [] ∧
      w.fs.openPath path = .ok (.file bytes) := by
  obtain ⟨bytes, hl⟩ := (h.held.found path).mp hp
  exact ⟨bytes, hl, h.separate.nonempty path bytes (h.tends.within path bytes hl),
    (h.held.regular path bytes hl).openPath⟩

/-- The readers of a poll know the files at their paths, and no others. -/
theorem Stocked.known (h : Stocked settings stock left log w) (hs : settings.Deleting) :
    Known settings w where
  settings_eq := h.tends.settings_eq
  recognises := hs.recognises
  current := h.tends.current
  distinct := h.tends.distinct
  found r hr := by
    obtain ⟨front, back, hleft, -⟩ := h.tends.consumed r hr
    exact (h.held.found r.path).mpr ⟨_, hleft⟩
  opens path hp := by
    obtain ⟨bytes, -, -, hopen⟩ := h.openPath hp
    exact ⟨bytes, hopen⟩
  known path hp bytes hopen r hr := by
    obtain ⟨_, hl, -, hopen'⟩ := h.openPath hp
    rw [hopen'] at hopen
    cases hopen
    exact ⟨h.path_eq hl hr, fun hpath => h.own hs hr (hpath ▸ hl)⟩

/-- Each path gets its reader. -/
theorem Stocked.paths_resolved (h : Stocked settings stock left log w) (hs : settings.Deleting) :
    w.resolved.1.map (·.path) = settings.finder.find w.fs := by
  rw [resolved, h.tends.settings_eq]
  refine Follower.map_path_resolveAll _ ?_ fun path hp => ?_
  · change 0 < w.follower.settings.fingerprintSize
    rw [h.tends.settings_eq]
    exact hs.recognises
  · obtain ⟨bytes, -, hne, hopen⟩ := h.openPath hp
    exact ⟨bytes, hopen, hne⟩

/-- The reader of a path has consumed what the reader that was bound to it had, or nothing if there was
none. -/
theorem Stocked.consumed_resolved (h : Stocked settings stock left log w) (hs : settings.Deleting)
    {r : Reader} (hr : r ∈ w.resolved.1) : ∃ front back, left r.path = some (front ++ back) ∧
      r.Consumed settings.toReadSettings (log r.path) front back := by
  obtain ⟨g, hg, -⟩ := (h.known hs).resolves
  rw [hg, List.mem_filterMap] at hr
  obtain ⟨path, hpath, hfollow⟩ := hr
  obtain rfl := Follower.follow_path hfollow
  obtain ⟨bytes, hl, hne, hopen⟩ := h.openPath hpath
  rw [Follower.follow, hopen] at hfollow
  simp only [if_neg hne, h.tends.settings_eq] at hfollow
  have hr := Option.some.inj hfollow
  cases hprior : w.follower.boundTo r.path with
  | none =>
    have hlog : log r.path = [] := by
      refine h.tends.unread r.path bytes hl fun r' hr' hpath' => ?_
      rw [(Follower.boundTo_eq_some_iff h.tends.distinct).mpr ⟨hr', hpath'⟩] at hprior
      cases hprior
    rw [hprior] at hr
    refine ⟨[], bytes, hl, .inl rfl, ?_, ?_, ?_⟩
    · have hoffset : r.offset = w.follower.registry.firstOffset w.follower.firstPoll bytes.length :=
        congrArg Reader.offset hr.symm
      rw [hoffset, Registry.firstOffset, h.tends.beginning]
      rfl
    · rw [hlog]
      rfl
    · exact congrArg Reader.fingerprint hr.symm
  | some previous =>
    obtain ⟨hmem, hpath'⟩ := (Follower.boundTo_eq_some_iff h.tends.distinct).mp hprior
    obtain ⟨front, back, hleft, hconsumed⟩ := h.tends.consumed previous hmem
    rw [hpath'] at hleft hconsumed
    obtain rfl : front ++ back = bytes := Option.some.inj (hleft.symm.trans hl)
    rw [hprior] at hr
    refine ⟨front, back, hl, hconsumed.ended, ?_, hconsumed.events, ?_⟩
    · exact (congrArg Reader.offset hr.symm).trans hconsumed.offset
    · exact congrArg Reader.fingerprint hr.symm

/-- Each reader goes on in its file, whatever its sink does. -/
theorem Stocked.reads (h : Stocked settings stock left log w) (hs : settings.Deleting)
    {r : Reader} (hr : r ∈ w.resolved.1) (sink : Sink) :
    ∃ bytes front back, left r.path = some bytes ∧
      r.Consumes settings.toReadSettings sink (log r.path) bytes front back
        (r.readToEnd w.follower.settings.toReadSettings w.fs sink) := by
  obtain ⟨front, back, hleft, hconsumed⟩ := h.consumed_resolved hs hr
  obtain ⟨front', back', hconsumes⟩ := hconsumed.read hs.plain
    (h.separate.short _ _ (h.tends.within _ _ hleft)) (h.held.regular _ _ hleft).openPath
    hs.deletes sink
  rw [h.tends.settings_eq]
  exact ⟨front ++ back, front', back', hleft, hconsumes⟩

theorem Stocked.read (h : Stocked settings stock left log w) (hs : settings.Deleting)
    {x : Passage} (hx : x ∈ w.readings.1) : ∃ bytes front back, left x.reader.path = some bytes ∧
      x.reader.Consumes settings.toReadSettings x.before (log x.reader.path) bytes front back
        x.reading := by
  have hreading : x.reading = x.reader.readToEnd w.follower.settings.toReadSettings w.fs x.before :=
    reading_of_mem_passages hx
  rw [hreading]
  exact h.reads hs (reader_mem_of_mem_readings hx) x.before

theorem Stocked.paths_readings (h : Stocked settings stock left log w) (hs : settings.Deleting) :
    w.readings.1.map (·.reader.path) = settings.finder.find w.fs := by
  rw [← h.paths_resolved hs, ← w.map_reader_readings, List.map_map]
  rfl

theorem Stocked.path_reading (h : Stocked settings stock left log w) (hs : settings.Deleting)
    {x : Passage} (hx : x ∈ w.readings.1) : x.reading.reader.path = x.reader.path := by
  obtain ⟨_, _, _, _, hc⟩ := h.read hs hx
  exact hc.path

theorem Stocked.nodup_read_paths (h : Stocked settings stock left log w) (hs : settings.Deleting) :
    ((w.readings.1.map (·.reading)).map (·.reader.path)).Nodup := by
  have hpaths : (w.readings.1.map (·.reading)).map (·.reader.path) =
      w.readings.1.map (·.reader.path) := by
    rw [List.map_map]
    exact List.map_congr_left fun x hx => h.path_reading hs hx
  rw [hpaths]
  exact (h.known hs).nodup_paths

theorem Stocked.settles (h : Stocked settings stock left log w) (hs : settings.Deleting) :
    Settles settings.finder left (w.readings.1.map (·.reading)) w.hasRead w.settled := by
  refine settles_foldl (h.nodup_read_paths hs) h.held (fun p q bytes hp hq => ?_)
    fun reading hm => ?_
  · exact (h.separate.of_within h.tends.within).injective hs.recognises hp hq
  · obtain ⟨x, hx, rfl⟩ := List.mem_map.mp hm
    obtain ⟨bytes, _, _, hleft, -⟩ := h.read hs hx
    rw [h.path_reading hs hx]
    exact ⟨bytes, hleft⟩

end World

end LogFollow
