import LogFollow.Proofs.Config.Settings
import LogFollow.Proofs.Follower.Files
import LogFollow.Proofs.Follower.Poll

/-!
# What a follower keeps from poll to poll

Each reader belongs to one file, and stands behind the lines of it whose events were accepted. A poll
keeps this, if it recognises the files, whatever the sink does. How the files are recognised is left
open here.
-/
namespace LogFollow

/-- The settings of a follower that reads all lines of its files, from their beginning, and leaves the
files alone. Its fingerprints have some bytes. -/
structure Settings.Thorough (settings : Settings) : Prop where
  plain : settings.toReadSettings.Plain
  keeps : settings.deleteAfterRead = false
  recognises : 0 < settings.fingerprintSize
  beginning : settings.startAt = .beginning

/-- What a configuration must ask for. That fingerprints have some bytes is checked. -/
theorem Config.plain_of_build {c : Config} {settings : Settings} (h : c.build = .ok settings)
    (he : settings.encoding.codeUnit = 1) (hm : c.multiline = none)
    (hr : c.attributeRegex = none) (hsized : settings.framing.Sized settings.maxLogSize) :
    settings.toReadSettings.Plain ∧ 0 < settings.fingerprintSize := by
  obtain ⟨-, hframing, hheader, -, -, -⟩ := built_of_build h
  rw [framing, hm] at hframing
  rw [header, hr] at hheader
  refine ⟨⟨?_, ?_, he, hsized⟩, ?_⟩
  · exact (Except.ok.inj hheader).symm
  · exact (Except.ok.inj hframing).symm
  · exact (built_of_build h).fingerprintSize_pos

theorem Config.thorough_of_build {c : Config} {settings : Settings} (h : c.build = .ok settings)
    (he : settings.encoding.codeUnit = 1) (hm : c.multiline = none)
    (hr : c.attributeRegex = none) (hsized : settings.framing.Sized settings.maxLogSize)
    (hd : c.deleteAfterRead = false) (hs : c.startAt = .beginning) : settings.Thorough := by
  obtain ⟨hplain, hsize⟩ := plain_of_build h he hm hr hsized
  have hbuilt := built_of_build h
  exact ⟨hplain, hbuilt.deleteAfterRead.trans hd, hsize, hbuilt.startAt.trans hs⟩

/-- The log files in the home directory are followed. -/
def Settings.logs : Settings where
  fingerprintSize := 1000
  maxLogSize := 100
  encoding := .standard
  framing := Encoding.standard.lines
  header := none
  fileAttributes := ⟨true, false, false, false⟩
  deleteAfterRead := false
  id := "logs"
  finder := .logs
  pollInterval := ⟨200000000⟩
  startAt := .beginning
  maxConcurrentFiles := 1024

theorem Settings.logs_thorough : Settings.logs.Thorough where
  plain := ⟨rfl, rfl, rfl, by decide⟩
  keeps := rfl
  recognises := by decide
  beginning := rfl

/-! ## One reader -/

namespace Lines

theorem whole_prefix_append (data more : Bytes) : whole data <+: whole (data ++ more) := by
  induction data using induct with
  | unended data h =>
    rw [whole_of_notMem h]
    exact List.nil_prefix
  | line l rest h ih =>
    rw [List.append_assoc, List.cons_append, whole_line h, whole_line h]
    exact List.prefix_cons_inj l |>.mpr ih

theorem contents_prefix_append (data more : Bytes) : contents data <+: contents (data ++ more) :=
  ((whole_prefix_append data more).map trim).filter _

end Lines

namespace Reader

/-- A reader stands behind the lines `front` of a file, whose events were accepted, and before
`rest`. -/
structure Stands (settings : ReadSettings) (r : Reader) (events : List Event)
    (front rest : Bytes) : Prop where
  ended : Lines.tail front = []
  offset : r.offset = front.length
  events : events.map (·.body) = (Lines.contents front).map settings.encoding.body
  fingerprint : r.fingerprint = .ofContent settings.fingerprintSize (front ++ rest)

variable {settings : ReadSettings}

/-- A reading takes the reader some lines further, and their events are accepted. -/
theorem Stands.read (hp : settings.Plain) {fs : FileSystem} {r : Reader} {events : List Event}
    {front rest : Bytes} (h : Stands settings r events front rest)
    (hfit : Lines.Fits settings.maxLogSize (front ++ rest))
    (ho : fs.openPath r.path = .ok (.file (front ++ rest))) (sink : Sink) :
    ∃ more front' rest', (r.readToEnd settings fs sink).sink.accepted = sink.accepted ++ more ∧
      front ++ rest = front' ++ rest' ∧
      Stands settings (r.readToEnd settings fs sink).reader (events ++ more) front' rest' ∧
      (r.readToEnd settings fs sink).reader.path = r.path ∧
      (sink.Willing → rest' = [] ∧ (r.readToEnd settings fs sink).sink.Willing) := by
  have hdrop : (front ++ rest).drop r.offset = rest := by rw [h.offset, List.drop_left]
  have hlen : r.offset ≤ (front ++ rest).length := by
    rw [h.offset, List.length_append]
    omega
  obtain ⟨taken, left, ht⟩ := takesLines_readOpened hp h.fingerprint
    (by rw [hdrop]; exact hfit.of_append h.ended) sink settings.deleteAfterRead
  rw [← read_of_openPath ho hlen, ← readToEnd] at ht
  have hsplit := ht.split
  rw [hdrop] at hsplit
  refine ⟨_, front ++ taken, left, ht.accepted, ?_, ⟨?_, ?_, ?_, ?_⟩, ?_, ht.willing⟩
  · rw [hsplit, List.append_assoc]
  · rw [(Lines.cut_append_of_ended h.ended taken).2, ht.ended]
  · have hl : (front ++ taken).length = r.offset + taken.length := by
      rw [List.length_append, h.offset]
    rw [ht.reader, hl]
  · rw [List.map_append, h.events, Lines.contents_append h.ended, List.map_append, List.map_map]
    rfl
  · rw [ht.reader, List.append_assoc, ← hsplit]
    exact h.fingerprint
  · rw [ht.reader]

end Reader

/-! ## All readers -/

theorem find?_eq_some_iff_of_unique {α : Type} {p : α → Bool} {l : List α}
    (hu : ∀ a ∈ l, ∀ b ∈ l, p a = true → p b = true → a = b) {a : α} :
    l.find? p = some a ↔ a ∈ l ∧ p a = true := by
  constructor
  · intro h
    exact ⟨List.mem_of_find?_eq_some h, List.find?_some h⟩
  · rintro ⟨ha, hp⟩
    cases h : l.find? p with
    | none => exact absurd hp (List.find?_eq_none.mp h a ha)
    | some b => rw [hu a ha b (List.mem_of_find?_eq_some h) hp (List.find?_some h)]

namespace Follower

variable {ι : Type}

/-- Each reader stands where the log of its file says, and no two have one path. A file at a path has a
reader just if it has bytes. -/
structure Follows (settings : Settings) (files : Files ι) (log : ι → List Event) (f : Follower) :
    Prop where
  settings_eq : f.settings = settings
  beginning : f.registry.startAtBeginning = true
  current : f.registry.current = []
  valid : files.Valid
  distinct : (f.registry.readers.map (·.path)).Nodup
  stands : ∀ r ∈ f.registry.readers, ∃ id front rest, files.owner r.path = some id ∧
    files.content id = some (front ++ rest) ∧ front ++ rest ≠ [] ∧
    r.Stands settings.toReadSettings (log id) front rest
  read : ∀ p id, files.owner p = some id → files.content id ≠ some [] →
    ∃ r ∈ f.registry.readers, files.owner r.path = some id
  unknown : ∀ id, files.content id = none → log id = []
  started : ∀ id bytes, files.content id = some bytes →
    (log id).map (·.body) <+: (Lines.contents bytes).map settings.encoding.body

/-- A follower that has loaded an empty store follows no files yet. -/
theorem follows_new {settings : Settings} (hs : settings.Thorough) (store : CheckpointStore)
    (he : store.load settings.id = .ok []) (fs : FileSystem) :
    ∃ f, (new settings store).load fs = .ok f ∧
      Follows settings (.nothing : Files ι) (fun _ => []) f := by
  refine ⟨{ new settings store with registry :=
    (new settings store).registry.load settings.toReadSettings fs [] }, ?_, ?_⟩
  · unfold load
    have hload : (new settings store).store.load (new settings store).settings.id = .ok [] := he
    rw [hload]
    rfl
  · refine ⟨rfl, ?_, rfl, Files.valid_nothing, .nil, ?_, ?_, ?_, ?_⟩
    · exact decide_eq_true hs.beginning
    · exact fun r hr => absurd hr List.not_mem_nil
    · intro _ _ h
      cases h
    · exact fun _ _ => rfl
    · intro _ _ h
      cases h

section

variable {settings : Settings} {before files : Files ι} {log : ι → List Event} {f : Follower}

/-- There is one reader of a file at most. -/
theorem Follows.reader_unique (h : Follows settings before log f) {r r' : Reader} {id : ι}
    (hr : r ∈ f.registry.readers) (hr' : r' ∈ f.registry.readers)
    (ho : before.owner r.path = some id) (ho' : before.owner r'.path = some id) : r = r' :=
  List.inj_on_of_nodup_map h.distinct hr hr' (h.valid.injective _ _ _ ho ho')

/-- Nothing is logged of a file that has no bytes yet. -/
theorem Follows.log_of_content_nil (h : Follows settings before log f) {id : ι}
    (hc : before.content id = some []) : log id = [] :=
  List.map_eq_nil_iff.mp (List.prefix_nil.mp (h.started id [] hc))

/-- The follower when a poll begins. -/
theorem Follows.beginPoll (h : Follows settings before log f) :
    Follows settings before log { f with registry := f.registry.beginPoll } :=
  ⟨h.settings_eq, h.beginning, h.current, h.valid, h.distinct, h.stands, h.read, h.unknown,
    h.started⟩

variable [DecidableEq ι]

/-- The reader that has read the file at a path before, wherever the file was then. -/
def priorOf (before files : Files ι) (f : Follower) (path : String) : Option Reader :=
  f.registry.readers.find? fun r => before.owner r.path = files.owner path

theorem Follows.priorOf_eq_some_iff (h : Follows settings before log f) {path : String} {id : ι}
    (ho : files.owner path = some id) {r : Reader} :
    priorOf before files f path = some r ↔
      r ∈ f.registry.readers ∧ before.owner r.path = some id := by
  rw [priorOf, find?_eq_some_iff_of_unique, decide_eq_true_eq, ho]
  intro r hr r' hr' hown hown'
  rw [decide_eq_true_eq, ho] at hown hown'
  exact h.reader_unique hr hr' hown hown'

/-- The reader of a path stands where the log of the file there says. -/
theorem Follows.stands_follow (h : Follows settings before log f)
    (he : Files.Evolves before files) {fs : FileSystem} {path : String} {id : ι} {bytes : Bytes}
    (ho : files.owner path = some id) (hc : files.content id = some bytes)
    (hopen : fs.openPath path = .ok (.file bytes)) {r : Reader}
    (hr : f.follow fs (priorOf before files f) path = some r) :
    r.path = path ∧ bytes ≠ [] ∧ ∃ front rest, bytes = front ++ rest ∧
      r.Stands settings.toReadSettings (log id) front rest := by
  unfold follow at hr
  rw [hopen] at hr
  simp only at hr
  split at hr
  · cases hr
  · next hne =>
    obtain rfl := Option.some.inj hr
    cases hp : priorOf before files f path with
    | none =>
      have hlog : log id = [] := by
        rcases he.fresh path id ho with ⟨q, hq⟩ | hn
        · by_cases hb : before.content id = some []
          · exact h.log_of_content_nil hb
          · obtain ⟨r, hr, hown⟩ := h.read q id hq hb
            rw [(h.priorOf_eq_some_iff ho).mpr ⟨hr, hown⟩] at hp
            cases hp
        · exact h.unknown id hn
      refine ⟨rfl, hne, [], bytes, rfl, rfl, ?_, ?_, ?_⟩
      · change f.registry.firstOffset f.firstPoll bytes.length = 0
        rw [Registry.firstOffset, h.beginning]
        rfl
      · rw [hlog]
        rfl
      · rw [← h.settings_eq]
        rfl
    | some previous =>
      obtain ⟨hmem, hown⟩ := (h.priorOf_eq_some_iff ho).mp hp
      obtain ⟨id', front, rest, hown', hcontent, -, hst⟩ := h.stands previous hmem
      obtain rfl : id' = id := Option.some.inj (hown'.symm.trans hown)
      obtain ⟨more, hmore⟩ := he.grows id' _ hcontent
      rw [hc, Option.some.injEq] at hmore
      refine ⟨rfl, hne, front, rest ++ more, ?_, hst.ended, hst.offset, hst.events, ?_⟩
      · rw [hmore, List.append_assoc]
      · rw [← List.append_assoc, ← hmore, ← h.settings_eq]
        rfl

end

end Follower

/-! ## A poll -/

namespace World

open Follower (Follows priorOf)

variable {ι : Type} [DecidableEq ι] {settings : Settings} {before files : Files ι}
  {log : ι → List Event} {w : World}

/-- The events that a poll has taken from a file, by the paths that its readings were of. -/
def gained (w : World) (files : Files ι) (id : ι) : List Event :=
  (w.journal.filter fun entry => files.owner entry.1 = some id).flatMap (·.2)

/-- A poll begins with each reader where the log says; the files have changed, but all of them are
there, they consist of lines that fit, and each is recognised. Readers whose files are gone find nothing
to read. -/
structure Ready (settings : Settings) (before files : Files ι) (log : ι → List Event)
    (w : World) : Prop where
  follows : Follows settings before log w.follower
  evolves : Files.Evolves before files
  shown : Files.Shows settings.finder w.fs before files
  fit : files.Fit settings.maxLogSize
  recognises : Follower.Recognises w.fs (priorOf before files w.follower)
    { w.follower with registry := w.follower.registry.beginPoll } (settings.finder.find w.fs)
  quiet : ∀ r ∈ w.follower.registry.readers,
    (∀ path ∈ settings.finder.find w.fs, priorOf before files w.follower path ≠ some r) →
    ∀ sink, (r.retire settings.toReadSettings w.fs sink).sink = sink

/-- What a poll has resolved its paths to. -/
structure Resolves (before files : Files ι) (w : World) (g : Registry) : Prop where
  readers : w.resolved.1 = (w.follower.settings.finder.find w.fs).filterMap
    (Follower.follow { w.follower with registry := w.follower.registry.beginPoll } w.fs
      (priorOf before files w.follower))
  follower : w.resolved.2 = { w.follower with registry := g }
  remains : Follower.Remains (priorOf before files w.follower)
    (w.follower.settings.finder.find w.fs) w.follower.registry.beginPoll g

theorem Ready.resolves (h : Ready settings before files log w) (hs : settings.Thorough) :
    ∃ g, Resolves before files w g := by
  have hset := h.follows.settings_eq
  obtain ⟨g, hg, hrem⟩ := Follower.resolveAll_eq (w.follower.settings.finder.find w.fs)
    (f := { w.follower with registry := w.follower.registry.beginPoll })
    (by rw [hset]; exact hs.recognises)
    (fun path hp => by
      rw [hset] at hp
      obtain ⟨_, bytes, _, _, hopen⟩ := h.shown.of_mem_find h.evolves.valid hp
      exact ⟨bytes, hopen⟩)
    (by rw [hset]; exact h.recognises)
  exact ⟨g, congrArg Prod.fst hg, congrArg Prod.snd hg, hrem⟩

/-- A reading has taken its reader further in a file, and a willing sink gets all of it. -/
structure Advances (settings : Settings) (files : Files ι) (log : ι → List Event) (x : Passage)
    (id : ι) (front rest : Bytes) : Prop where
  owner : files.owner x.reader.path = some id
  content : files.content id = some (front ++ rest)
  nonempty : front ++ rest ≠ []
  stands : x.reading.reader.Stands settings.toReadSettings (log id ++ x.delivered) front rest
  path : x.reading.reader.path = x.reader.path
  willing : x.before.Willing → rest = []

/-- Each reader that a poll has found advances, whatever its sink. -/
theorem Ready.reads (h : Ready settings before files log w) (hs : settings.Thorough)
    {g : Registry} (hg : Resolves before files w g) {r : Reader} (hr : r ∈ w.resolved.1)
    (sink : Sink) :
    (∃ id front rest, Advances settings files log
        ⟨r, sink, r.readToEnd settings.toReadSettings w.fs sink⟩ id front rest) ∧
      sink.accepted <+: (r.readToEnd settings.toReadSettings w.fs sink).sink.accepted ∧
      (sink.Willing → (r.readToEnd settings.toReadSettings w.fs sink).sink.Willing) := by
  rw [hg.readers, List.mem_filterMap] at hr
  obtain ⟨path, hpath, hfollow⟩ := hr
  rw [h.follows.settings_eq] at hpath
  obtain ⟨id, bytes, ho, hc, hopen⟩ := h.shown.of_mem_find h.evolves.valid hpath
  obtain ⟨hp, hne, front, rest, rfl, hst⟩ :=
    h.follows.beginPoll.stands_follow h.evolves ho hc hopen hfollow
  subst hp
  obtain ⟨more, front', rest', hmore, hsplit, hst', hp', hw⟩ :=
    hst.read hs.plain (h.fit _ id _ ho hc) hopen sink
  have hdel : Passage.delivered ⟨r, sink, r.readToEnd settings.toReadSettings w.fs sink⟩ =
      more := by
    rw [Passage.delivered, hmore, List.drop_left]
  rw [hsplit] at hc hne
  refine ⟨⟨id, front', rest', ho, hc, hne, ?_, hp', fun h => (hw h).1⟩, ?_, fun h => (hw h).2⟩
  · rw [hdel]
    exact hst'
  · rw [hmore]
    exact List.prefix_append _ _

theorem Ready.advances (h : Ready settings before files log w) (hs : settings.Thorough)
    {g : Registry} (hg : Resolves before files w g) {x : Passage} (hx : x ∈ w.readings.1) :
    ∃ id front rest, Advances settings files log x id front rest := by
  have hmem := reader_mem_of_mem_readings hx
  have hread := reading_of_mem_passages hx
  rw [h.follows.settings_eq] at hread
  have hadv := (h.reads hs hg hmem x.before).1
  rw [← hread] at hadv
  exact hadv

/-- The readers that a poll gives up find nothing to read. -/
theorem Ready.retire_quiet (h : Ready settings before files log w)
    {g : Registry} (hg : Resolves before files w g) {r : Reader}
    (hr : r ∈ w.resolved.2.registry.readers) (sink : Sink) :
    (r.retire settings.toReadSettings w.fs sink).sink = sink := by
  rw [hg.follower] at hr
  obtain ⟨hmem, hprior⟩ :=
    (hg.remains.readers (List.Nodup.of_map _ h.follows.distinct) r).mp hr
  rw [h.follows.settings_eq] at hprior
  exact h.quiet r hmem hprior sink

/-- The readers of a poll have different paths. -/
theorem Resolves.nodup_paths {g : Registry} (hg : Resolves before files w g) :
    (w.readings.1.map (·.reader.path)).Nodup := by
  have hreaders : (w.readings.1.map (·.reader.path)) = w.resolved.1.map (·.path) := by
    rw [← map_reader_passages (fun r sink =>
      r.readToEnd w.follower.settings.toReadSettings w.fs sink) w.sink w.resolved.1, List.map_map]
    rfl
  rw [hreaders, hg.readers]
  exact (Finder.find_nodup w.follower.settings.finder w.fs).sublist
    (Follower.map_path_follow_sublist _ w.fs _ _)

/-- The last readings of a poll take nothing. -/
theorem Ready.delivered_retirings (h : Ready settings before files log w) {g : Registry}
    (hg : Resolves before files w g) {x : Passage} (hx : x ∈ w.retirings.1) : x.delivered = [] := by
  have hmem : x.reader ∈ w.resolved.2.registry.readers := reader_mem_of_mem_passages hx
  have hread := reading_of_mem_passages hx
  rw [h.follows.settings_eq] at hread
  rw [Passage.delivered, hread, h.retire_quiet hg hmem, List.drop_length]

theorem flatMap_filter_of_unique {entries : List (String × List Event)} (wanted : String → Bool)
    (hnd : (entries.map Prod.fst).Nodup) {entry : String × List Event} (hm : entry ∈ entries)
    (hw : wanted entry.1 = true)
    (hu : ∀ other ∈ entries, wanted other.1 = true → other.1 = entry.1) :
    (entries.filter fun e => wanted e.1).flatMap (·.2) = entry.2 := by
  induction entries with
  | nil => exact absurd hm List.not_mem_nil
  | cons first rest ih =>
    obtain ⟨hfirst, hrest⟩ := List.nodup_cons.mp hnd
    rcases List.mem_cons.mp hm with rfl | hm
    · have hnone : (rest.filter fun e => wanted e.1) = [] := by
        rw [List.filter_eq_nil_iff]
        intro other hother hwanted
        apply hfirst
        rw [← hu other (List.mem_cons_of_mem _ hother) hwanted]
        exact List.mem_map_of_mem hother
      rw [List.filter_cons_of_pos (by exact hw), hnone, List.flatMap_cons, List.flatMap_nil,
        List.append_nil]
    · have hskip : ¬ wanted first.1 = true := by
        intro hwanted
        apply hfirst
        rw [hu first List.mem_cons_self hwanted]
        exact List.mem_map_of_mem hm
      rw [List.filter_cons_of_neg (by exact hskip)]
      exact ih hrest hm fun other hother => hu other (List.mem_cons_of_mem _ hother)

/-- What a poll has taken from a file is what the reading of its path has taken. -/
theorem Ready.gained_eq (h : Ready settings before files log w) {g : Registry}
    (hg : Resolves before files w g) {x : Passage} (hx : x ∈ w.readings.1) {id : ι}
    (ho : files.owner x.reader.path = some id) : w.gained files id = x.delivered := by
  have hretired : ((w.retirings.1.map fun x => (x.reader.path, x.delivered)).filter
      fun entry => files.owner entry.1 = some id).flatMap (·.2) = [] := by
    rw [List.flatMap_eq_nil_iff]
    intro entry hentry
    obtain ⟨y, hy, rfl⟩ := List.mem_map.mp (List.mem_filter.mp hentry).1
    exact h.delivered_retirings hg hy
  rw [gained, journal, List.map_append, List.filter_append, List.flatMap_append, hretired,
    List.append_nil]
  refine flatMap_filter_of_unique (fun path => files.owner path = some id) ?_
    (List.mem_map_of_mem hx) (decide_eq_true ho) fun entry _ hentry => ?_
  · rw [List.map_map]
    exact hg.nodup_paths
  · exact h.evolves.valid.injective _ _ id (of_decide_eq_true hentry) ho

theorem Ready.gained_eq_nil (h : Ready settings before files log w) {g : Registry}
    (hg : Resolves before files w g) {id : ι}
    (ho : ∀ x ∈ w.readings.1, files.owner x.reader.path ≠ some id) : w.gained files id = [] := by
  rw [gained, List.flatMap_eq_nil_iff]
  intro entry hentry
  obtain ⟨hmem, howner⟩ := List.mem_filter.mp hentry
  rw [decide_eq_true_eq] at howner
  rw [journal, List.map_append, List.mem_append, List.mem_map, List.mem_map] at hmem
  rcases hmem with ⟨x, hx, rfl⟩ | ⟨x, hx, rfl⟩
  · exact absurd howner (ho x hx)
  · exact h.delivered_retirings hg hx

/-- Each file is read in a poll, but for those without bytes. -/
theorem Ready.read_or_empty (h : Ready settings before files log w) {g : Registry}
    (hg : Resolves before files w g) {path : String} {id : ι} {bytes : Bytes}
    (ho : files.owner path = some id) (hc : files.content id = some bytes) :
    (∃ x ∈ w.readings.1, files.owner x.reader.path = some id) ∨ bytes = [] := by
  by_cases hb : bytes = []
  · exact .inr hb
  left
  have hopen := h.shown.opens path id bytes ho hc
  have hmem : path ∈ w.follower.settings.finder.find w.fs := by
    rw [h.follows.settings_eq]
    exact (h.shown.found path).mpr ⟨id, ho⟩
  have hfollow : ∃ r, Follower.follow
      { w.follower with registry := w.follower.registry.beginPoll } w.fs
      (priorOf before files w.follower) path = some r := by
    rw [Follower.follow, hopen]
    simp only [if_neg hb]
    exact ⟨_, rfl⟩
  obtain ⟨r, hr⟩ := hfollow
  have hres : r ∈ w.resolved.1 := by
    rw [hg.readers]
    exact List.mem_filterMap.mpr ⟨path, hmem, hr⟩
  rw [← map_reader_passages (fun r sink =>
    r.readToEnd w.follower.settings.toReadSettings w.fs sink) w.sink w.resolved.1] at hres
  obtain ⟨x, hx, rfl⟩ := List.mem_map.mp hres
  refine ⟨x, hx, ?_⟩
  rw [Follower.follow_path hr]
  exact ho

/-- A file that a poll does not read has no events, before and after. -/
theorem Ready.log_of_unread (h : Ready settings before files log w) {g : Registry}
    (hg : Resolves before files w g) {path : String} {id : ι} (ho : files.owner path = some id)
    (hu : ∀ x ∈ w.readings.1, files.owner x.reader.path ≠ some id) :
    files.content id = some [] ∧ log id = [] ∧ w.gained files id = [] := by
  obtain ⟨bytes, hc⟩ := h.evolves.valid.exists_content ho
  rcases h.read_or_empty hg ho hc with ⟨x, hx, hown⟩ | rfl
  · exact absurd hown (hu x hx)
  · refine ⟨hc, ?_, h.gained_eq_nil hg hu⟩
    cases hb : before.content id with
    | none => exact h.follows.unknown id hb
    | some bytes =>
      obtain ⟨more, hm⟩ := h.evolves.grows id bytes hb
      rw [hc, Option.some.injEq] at hm
      rw [(List.append_eq_nil_iff.mp hm.symm).1] at hb
      exact h.follows.log_of_content_nil hb

/-- What is logged of a file with a poll is a beginning of its lines. -/
theorem Ready.started (h : Ready settings before files log w) (hs : settings.Thorough)
    {g : Registry} (hg : Resolves before files w g) {id : ι} {bytes : Bytes}
    (hc : files.content id = some bytes) :
    (log id ++ w.gained files id).map (·.body) <+:
      (Lines.contents bytes).map settings.encoding.body := by
  by_cases hread : ∃ x ∈ w.readings.1, files.owner x.reader.path = some id
  · obtain ⟨x, hx, hown⟩ := hread
    obtain ⟨id', front, rest, hadv⟩ := h.advances hs hg hx
    obtain rfl : id' = id := Option.some.inj (hadv.owner.symm.trans hown)
    rw [h.gained_eq hg hx hown, hadv.stands.events]
    rw [hadv.content] at hc
    rw [← Option.some.inj hc]
    exact (Lines.contents_prefix_append front rest).map _
  · rw [h.gained_eq_nil hg fun x hx hown => hread ⟨x, hx, hown⟩, List.append_nil]
    cases hb : before.content id with
    | none =>
      rw [h.follows.unknown id hb]
      exact List.nil_prefix
    | some old =>
      obtain ⟨more, hm⟩ := h.evolves.grows id old hb
      rw [hc] at hm
      rw [Option.some.inj hm]
      exact (h.follows.started id old hb).trans ((Lines.contents_prefix_append old more).map _)

/-- **A poll keeps each reader where the log says**, with the events that it has taken. -/
theorem Ready.follows_poll (h : Ready settings before files log w) (hs : settings.Thorough) :
    Follows settings files (fun id => log id ++ w.gained files id) w.poll.2.follower := by
  obtain ⟨g, hg⟩ := h.resolves hs
  have hset := h.follows.settings_eq
  have hpolled : Polled w g w.poll.2 := by
    have hp := polled (w := w) (by rw [hset]; exact hs.keeps)
    rw [hg.follower] at hp
    exact hp
  have hreaders : w.poll.2.follower.registry.readers =
      w.readings.1.map (·.reading.reader) := by
    rw [hpolled.readers, hg.remains.current]
    change w.follower.registry.current ++ _ = _
    rw [h.follows.current, List.nil_append]
  refine ⟨?_, ?_, hpolled.current, h.evolves.valid, ?_, ?_, ?_, ?_, ?_⟩
  · exact hpolled.settings.trans hset
  · rw [hpolled.beginning, hg.remains.beginning]
    exact h.follows.beginning
  · have hpaths : w.readings.1.map (·.reading.reader.path) =
        w.readings.1.map (·.reader.path) := by
      refine List.map_congr_left fun x hx => ?_
      obtain ⟨_, _, _, hadv⟩ := h.advances hs hg hx
      exact hadv.path
    rw [hreaders, List.map_map]
    exact hpaths ▸ hg.nodup_paths
  · intro r hr
    rw [hreaders] at hr
    obtain ⟨x, hx, rfl⟩ := List.mem_map.mp hr
    obtain ⟨id, front, rest, hadv⟩ := h.advances hs hg hx
    refine ⟨id, front, rest, ?_, hadv.content, hadv.nonempty, ?_⟩
    · rw [hadv.path]
      exact hadv.owner
    · rw [h.gained_eq hg hx hadv.owner]
      exact hadv.stands
  · intro p id ho hne
    obtain ⟨bytes, hc⟩ := h.evolves.valid.exists_content ho
    rcases h.read_or_empty hg ho hc with ⟨x, hx, hown⟩ | rfl
    · obtain ⟨_, _, _, hadv⟩ := h.advances hs hg hx
      refine ⟨x.reading.reader, ?_, ?_⟩
      · rw [hreaders]
        exact List.mem_map_of_mem hx
      · rw [hadv.path]
        exact hown
    · exact absurd hc hne
  · intro id hn
    rw [h.follows.unknown id (h.evolves.grows.eq_none hn), h.gained_eq_nil hg, List.append_nil]
    exact fun x _ hown => h.evolves.valid.known _ id hown hn
  · exact fun id bytes hc => h.started hs hg hc

/-- With a willing sink all lines of all files are logged. -/
theorem Ready.complete (h : Ready settings before files log w) (hs : settings.Thorough)
    (hw : w.sink.Willing) {path : String} {id : ι} {bytes : Bytes}
    (ho : files.owner path = some id) (hc : files.content id = some bytes) :
    (log id ++ w.gained files id).map (·.body) =
      (Lines.contents bytes).map settings.encoding.body := by
  obtain ⟨g, hg⟩ := h.resolves hs
  by_cases hread : ∃ x ∈ w.readings.1, files.owner x.reader.path = some id
  · obtain ⟨x, hx, hown⟩ := hread
    obtain ⟨id', front, rest, hadv⟩ := h.advances hs hg hx
    obtain rfl : id' = id := Option.some.inj (hadv.owner.symm.trans hown)
    have hwilling : x.before.Willing := by
      refine before_passages (fun r hr sink hsink => ?_) hw hx
      rw [h.follows.settings_eq]
      exact (h.reads hs hg hr sink).2.2 hsink
    have hcontent := hadv.content
    rw [hadv.willing hwilling, List.append_nil, hc] at hcontent
    rw [h.gained_eq hg hx hown, hadv.stands.events, Option.some.inj hcontent]
  · obtain ⟨hempty, hlog, hgained⟩ :=
      h.log_of_unread hg ho fun x hx hown => hread ⟨x, hx, hown⟩
    rw [hc, Option.some.injEq] at hempty
    rw [hlog, hgained, hempty]
    rfl

/-- What a poll puts into the sink is what it takes from the files. -/
theorem Ready.accounted (h : Ready settings before files log w) (hs : settings.Thorough) :
    w.poll.2.sink.accepted = w.sink.accepted ++ w.journal.flatMap (·.2) ∧
      ∀ entry ∈ w.journal, entry.2 ≠ [] → ∃ id, files.owner entry.1 = some id := by
  obtain ⟨g, hg⟩ := h.resolves hs
  have hset := h.follows.settings_eq
  have hread := accepted_passages
    (fun r sink => r.readToEnd w.follower.settings.toReadSettings w.fs sink) w.resolved.1
    (fun r hr sink => by rw [hset]; exact (h.reads hs hg hr sink).2.1) w.sink
  have hretire := accepted_passages
    (fun r sink => r.retire w.follower.settings.toReadSettings w.fs sink)
    w.resolved.2.registry.readers
    (fun r hr sink => by
      rw [hset]
      exact ⟨[], by rw [h.retire_quiet hg hr sink, List.append_nil]⟩) w.readings.2
  constructor
  · rw [(polled (by rw [hset]; exact hs.keeps)).sink, retirings, hretire,
      readings, hread, journal, List.map_append, List.flatMap_append, List.flatMap_map,
      List.flatMap_map, List.append_assoc]
    rfl
  · intro entry hentry hne
    rw [journal, List.map_append, List.mem_append, List.mem_map, List.mem_map] at hentry
    rcases hentry with ⟨x, hx, rfl⟩ | ⟨x, hx, rfl⟩
    · obtain ⟨id, _, _, hadv⟩ := h.advances hs hg hx
      exact ⟨id, hadv.owner⟩
    · exact absurd (h.delivered_retirings hg hx) hne

/-- What is known of the log after a poll. The events of a file are those of its first lines, each once
and in order, and of all its lines if the sink has been willing. Into the sink has come what was taken
from the files, and nothing else. -/
structure Logged (settings : Settings) (files : Files ι) (log : ι → List Event) (w : World) :
    Prop where
  started : ∀ id bytes, files.content id = some bytes →
    (log id ++ w.gained files id).map (·.body) <+:
      (Lines.contents bytes).map settings.encoding.body
  complete : w.sink.Willing → ∀ path id bytes, files.owner path = some id →
    files.content id = some bytes →
    (log id ++ w.gained files id).map (·.body) =
      (Lines.contents bytes).map settings.encoding.body
  accepted : w.poll.2.sink.accepted = w.sink.accepted ++ w.journal.flatMap (·.2)
  owned : ∀ entry ∈ w.journal, entry.2 ≠ [] → ∃ id, files.owner entry.1 = some id

theorem Ready.logged (h : Ready settings before files log w) (hs : settings.Thorough) :
    Logged settings files log w := by
  obtain ⟨g, hg⟩ := h.resolves hs
  obtain ⟨haccepted, howned⟩ := h.accounted hs
  refine ⟨fun id bytes hc => ?_, fun hw path id bytes ho hc => ?_, haccepted, howned⟩
  · exact h.started hs hg hc
  · exact h.complete hs hw ho hc

end World

/-! ## Polls one after another -/

namespace Follower

variable {ι : Type} [DecidableEq ι] {turn : Files ι → Files ι → World → Prop} {settings : Settings}

/-- The polls of a follower that begins with an empty store, and the events of each file so far. Each
poll has a sink of its own. `turn` says what may happen to the files before a poll, and how the poll
finds them. -/
inductive Run (turn : Files ι → Files ι → World → Prop) (settings : Settings) :
    Files ι → Follower → (ι → List Event) → Prop
  | start (store : CheckpointStore) (fs : FileSystem) (f : Follower) :
      store.load settings.id = .ok [] → (new settings store).load fs = .ok f →
      Run turn settings .nothing f fun _ => []
  | poll {before : Files ι} {log : ι → List Event} (files : Files ι) (w : World) :
      Run turn settings before w.follower log → turn before files w →
      Run turn settings files w.poll.2.follower fun id => log id ++ w.gained files id

/-- In a run each reader always stands where the log of its file says. -/
theorem Run.follows (hs : settings.Thorough)
    (hready : ∀ before files log w, turn before files w → Follows settings before log w.follower →
      World.Ready settings before files log w)
    {files : Files ι} {f : Follower} {log : ι → List Event} (h : Run turn settings files f log) :
    Follows settings files log f := by
  induction h with
  | start store fs f hstore hload =>
    obtain ⟨f', hf', hfollows⟩ := follows_new (ι := ι) hs store hstore fs
    rw [hload] at hf'
    cases hf'
    exact hfollows
  | poll files w _ hturn ih => exact (hready _ files _ w hturn ih).follows_poll hs

end Follower

/-! ## Two log files that are read whole -/

/-- The reader of a log file that was found in the first poll. -/
def Reader.ofLog (fs : FileSystem) (path : String) (content : Bytes) : Reader :=
  { Reader.new Settings.logs.toReadSettings fs path (.ofContent 1000 content) 0 with
    generation := 1 }

/-- The same reader when the file has been read to its end. -/
def Reader.behindLog (fs : FileSystem) (path : String) (content : Bytes) : Reader :=
  { Reader.ofLog fs path content with offset := content.length, lastSeenSize := content.length }

namespace World

/-- The first poll of two log files. -/
def ofLogs (a b : Bytes) : World where
  follower := .new .logs ⟨false, []⟩
  fs := .twoLogs a b
  sink := .healthy

theorem resolved_ofLogs {a b : Bytes} (ha : a ≠ []) (hb : b ≠ []) :
    (ofLogs a b).resolved =
      ([.ofLog (.twoLogs a b) "a.log" a, .ofLog (.twoLogs a b) "b.log" b],
        { Follower.new .logs ⟨false, []⟩ with
          registry := { startAtBeginning := true, generation := 1 } }) := by
  have hfound {path : String} {content : Bytes} (hc : content ≠ [])
      (ho : (FileSystem.twoLogs a b).openPath path = .ok (.file content)) :
      ({ Follower.new .logs ⟨false, []⟩ with
        registry := { startAtBeginning := true, generation := 1 } } : Follower).resolvePath
          (.twoLogs a b) path =
        (some (.ofLog (.twoLogs a b) path content), { startAtBeginning := true, generation := 1 }) := by
    rw [Follower.resolvePath_file Settings.logs_thorough.recognises ho, if_neg hc]
    rfl
  obtain ⟨hoa, hob⟩ := FileSystem.openPath_twoLogs a b
  rw [resolved, show (ofLogs a b).follower.settings.finder.find (ofLogs a b).fs =
    ["a.log", "b.log"] from Finder.find_twoLogs a b]
  change Follower.resolveAll { Follower.new .logs ⟨false, []⟩ with
    registry := { startAtBeginning := true, generation := 1 } } (.twoLogs a b) _ = _
  rw [Follower.resolveAll, hfound ha hoa]
  simp only
  rw [Follower.resolveAll, hfound hb hob]
  rfl

/-- Two log files are read whole. -/
theorem readers_ofLogs {a b : Bytes} (ha : a ≠ []) (hb : b ≠ [])
    (hfa : Lines.Fits 100 a) (hfb : Lines.Fits 100 b) :
    (ofLogs a b).poll.2.follower.registry.readers =
      [.behindLog (.twoLogs a b) "a.log" a, .behindLog (.twoLogs a b) "b.log" b] := by
  have hread {path : String} {content : Bytes} (hf : Lines.Fits 100 content)
      (ho : (FileSystem.twoLogs a b).openPath path = .ok (.file content)) {sink : Sink}
      (hw : sink.Willing) :
      ((Reader.ofLog (.twoLogs a b) path content).readToEnd Settings.logs.toReadSettings
        (.twoLogs a b) sink).reader = .behindLog (.twoLogs a b) path content ∧
      ((Reader.ofLog (.twoLogs a b) path content).readToEnd Settings.logs.toReadSettings
        (.twoLogs a b) sink).sink.Willing := by
    obtain ⟨front, back, ht⟩ := Reader.takesLines_readOpened Settings.logs_thorough.plain
      (r := .ofLog (.twoLogs a b) path content) rfl hf sink false
    obtain ⟨rfl, hw'⟩ := ht.willing hw
    have hsplit := ht.split
    have hreader := ht.reader
    rw [List.append_nil] at hsplit
    rw [← hsplit] at hreader
    rw [Reader.readToEnd, Reader.read_of_openPath (by exact ho) (Nat.zero_le _)]
    refine ⟨hreader.trans ?_, hw'⟩
    rw [show (Reader.ofLog (.twoLogs a b) path content).offset = 0 from rfl, List.drop_zero,
      Nat.zero_add]
    rfl
  obtain ⟨hoa, hob⟩ := FileSystem.openPath_twoLogs a b
  obtain ⟨hra, hw⟩ := hread hfa hoa Sink.healthy_willing
  obtain ⟨hrb, -⟩ := hread hfb hob hw
  have hreaders := (polled (w := ofLogs a b) rfl).readers
  rw [readings, resolved_ofLogs ha hb, passages_cons, passages_cons] at hreaders
  rw [hreaders]
  exact congrArg₂ (fun r s => [r, s]) hra hrb

end World

end LogFollow
