import LogFollow.Proofs.Follower.Deleting
import LogFollow.Proofs.Follower.Known
import LogFollow.Proofs.Follower.Reachable
import LogFollow.Proofs.Reader.Rebuilt

/-!
# Followers that are abreast of their files

Files are made and appended to, and end with a newline whenever a poll finds them. With willing sinks each
poll reads all that is new: the reader of each file with bytes then stands at the end of it, whatever the
first polls have passed over. So the events that a poll takes from a file are those of the lines behind the
place where its reader stood, or begins if there was none.
-/
namespace LogFollow

/-- The settings of a follower that reads lines and leaves its files alone. Its fingerprints have some
bytes. -/
structure Settings.Tailing (settings : Settings) : Prop where
  lined : settings.toReadSettings.Lined
  keeps : settings.deleteAfterRead = false
  recognises : 0 < settings.fingerprintSize

theorem Config.tailing_of_build {c : Config} {settings : Settings} (h : c.build = .ok settings)
    (he : settings.encoding.codeUnit = 1) (hm : c.multiline = none)
    (hsized : settings.framing.Sized settings.maxLogSize) (hd : c.deleteAfterRead = false) :
    settings.Tailing := by
  have hbuilt := built_of_build h
  have hframing := hbuilt.framing
  rw [framing, hm] at hframing
  exact ⟨⟨(Except.ok.inj hframing).symm, he, hsized⟩, hbuilt.deleteAfterRead.trans hd,
    hbuilt.fingerprintSize_pos⟩

/-! ## Where readers stand -/

/-- How far a file has been read. -/
structure Standing where
  header : HeaderState
  offset : Nat
deriving DecidableEq

def Reader.standing (r : Reader) : Standing := ⟨r.header, r.offset⟩

namespace Standing

/-- Behind the rest of a file. -/
def past (settings : ReadSettings) (s : Standing) (bytes : Bytes) : Standing where
  header := s.header.past settings (Lines.contents (bytes.drop s.offset))
  offset := bytes.length

/-- The events of the rest of a file. -/
def events (settings : ReadSettings) (file : Attributes) (s : Standing) (bytes : Bytes) :
    List Event :=
  s.header.events settings file (Lines.contents (bytes.drop s.offset))

/-- Nothing has been read. -/
def beginning (settings : ReadSettings) : Standing := ⟨.initial settings, 0⟩

end Standing

namespace Follower

/-- Where the reader of a path stands, if there is one. -/
def standing (f : Follower) (path : String) : Option Standing :=
  (f.boundTo path).map Reader.standing

/-- Where the reader of a file begins that is seen for the first time. -/
def entry (settings : ReadSettings) (f : Follower) (size : Nat) : Standing :=
  let offset := f.registry.firstOffset f.firstPoll size
  ⟨if offset = 0 then .initial settings else .done .empty, offset⟩

end Follower

/-! ## Files that are appended to -/

/-- What a poll meets: a file system, the files in it that are wanted, and a sink. -/
structure Encounter where
  fs : FileSystem
  stock : Stock
  sink : Sink

namespace Encounter

/-- A follower about to make the poll. -/
def world (e : Encounter) (f : Follower) : World := ⟨f, e.fs, e.sink⟩

/-- Since the poll before, files were appended to or made, and nothing else. Each ends with a newline, its
lines fit, and what another file had before is no beginning of it. -/
structure Extends (settings : Settings) (before : Stock) (e : Encounter) : Prop where
  found : ∀ path, path ∈ settings.finder.find e.fs ↔ ∃ bytes, e.stock path = some bytes
  opens : ∀ path bytes, e.stock path = some bytes → e.fs.openPath path = .ok (.file bytes)
  grows : ∀ path bytes, before path = some bytes → ∃ more, e.stock path = some (bytes ++ more)
  ended : ∀ path bytes, e.stock path = some bytes → Lines.tail bytes = []
  tidy : ∀ path bytes, e.stock path = some bytes → Lines.Tidy settings.maxLogSize bytes
  apart : ∀ p q bytes bytes', before p = some bytes → e.stock q = some bytes' → p ≠ q →
    (Fingerprint.ofContent settings.fingerprintSize bytes).matchesWith
      (.ofContent settings.fingerprintSize bytes') = false
  willing : e.sink.Willing

end Encounter

namespace Follower

/-- Each file with bytes has a reader, which stands at the end of it. -/
structure Abreast (settings : Settings) (stock : Stock) (f : Follower) : Prop
    extends f.Idle settings where
  distinct : (f.registry.readers.map (·.path)).Nodup
  behind : ∀ r ∈ f.registry.readers, ∃ bytes, stock r.path = some bytes ∧ bytes ≠ [] ∧
    Lines.tail bytes = [] ∧ r.offset = bytes.length ∧
    r.fingerprint = .ofContent settings.fingerprintSize bytes
  read : ∀ path bytes, stock path = some bytes → bytes ≠ [] →
    ∃ r ∈ f.registry.readers, r.path = path

variable {settings : Settings} {before : Stock} {f : Follower} {e : Encounter} {path : String}
  {bytes : Bytes}

/-- A follower that has loaded an empty store, and has made no poll yet. -/
def Fresh (settings : Settings) (f : Follower) : Prop :=
  ∃ store fs, CheckpointStore.load store settings.id = .ok [] ∧ (new settings store).load fs = .ok f

/-- It is abreast of no files. -/
theorem Fresh.abreast (h : f.Fresh settings) :
    Abreast settings (fun _ => none) f ∧ f.firstPoll = true := by
  obtain ⟨store, fs, hempty, hf⟩ := h
  have hload : (new settings store).store.load (new settings store).settings.id = .ok [] := hempty
  rw [load, hload] at hf
  obtain rfl := Except.ok.inj hf
  refine ⟨⟨⟨rfl, rfl, rfl⟩, .nil, fun r hr => ?_, fun path bytes hb => ?_⟩, rfl⟩
  · cases hr
  · cases hb

/-- The reader of a path knows the file there, and no other one. -/
theorem Abreast.known (h : Abreast settings before f) (hs : settings.Tailing)
    (he : e.Extends settings before) : World.Known settings (e.world f) where
  settings_eq := h.settings_eq
  recognises := hs.recognises
  current := h.current
  distinct := h.distinct
  found r hr := by
    obtain ⟨bytes, hb, -⟩ := h.behind r hr
    obtain ⟨more, hmore⟩ := he.grows r.path bytes hb
    exact (he.found r.path).mpr ⟨_, hmore⟩
  opens path hp := by
    obtain ⟨bytes, hb⟩ := (he.found path).mp hp
    exact ⟨bytes, he.opens path bytes hb⟩
  known path hp bytes hopen r hr := by
    obtain ⟨found, hb⟩ := (he.found path).mp hp
    have hopen' : e.fs.openPath path = .ok (.file bytes) := hopen
    rw [he.opens path found hb] at hopen'
    obtain rfl : found = bytes := FileSystem.Opened.file.inj (Except.ok.inj hopen')
    obtain ⟨old, hold, hne, -, -, hprint⟩ := h.behind r hr
    rw [hprint]
    constructor
    · intro hm
      -- the reader of another path would know a file that is apart from its own
      by_contra hother
      rw [he.apart r.path path old found hold hb hother] at hm
      cases hm
    · rintro rfl
      obtain ⟨more, hmore⟩ := he.grows r.path old hold
      obtain rfl := Option.some.inj (hb.symm.trans hmore)
      exact Fingerprint.ofContent_matchesWith_append hs.recognises hs.recognises hne more

/-- The reader that a poll reads with at a path. -/
structure Takes (settings : Settings) (f : Follower) (e : Encounter) (r : Reader) (bytes : Bytes) :
    Prop where
  stock : e.stock r.path = some bytes
  nonempty : bytes ≠ []
  standing : r.standing = (f.standing r.path).getD (f.entry settings.toReadSettings bytes.length)
  fingerprint : r.fingerprint = .ofContent settings.fingerprintSize bytes
  fileAttributes : r.fileAttributes = settings.fileAttributes.attributes e.fs r.path
  le : r.offset ≤ bytes.length
  ended : Lines.tail (bytes.drop r.offset) = []

/-- Each file with bytes is taken up by a reader. -/
theorem Abreast.takes (h : Abreast settings before f) (he : e.Extends settings before)
    (hb : e.stock path = some bytes) (hne : bytes ≠ []) :
    ∃ r, follow { f with registry := f.registry.beginPoll } e.fs f.boundTo path = some r ∧
      r.path = path ∧ Takes settings f e r bytes := by
  obtain rfl := h.settings_eq
  have hended := he.ended path bytes hb
  rw [follow, he.opens path bytes hb]
  simp only [if_neg hne]
  cases hbound : f.boundTo path with
  | none =>
    -- a new reader begins at one of the ends of the file, where no line is cut in two
    have hoffset : f.registry.firstOffset f.firstPoll bytes.length = 0 ∨
        f.registry.firstOffset f.firstPoll bytes.length = bytes.length := by
      unfold Registry.firstOffset
      split
      · exact .inl rfl
      · exact .inr rfl
    refine ⟨_, rfl, rfl, hb, hne, ?_, rfl, rfl, ?_, ?_⟩
    · change _ = (f.standing path).getD _
      rw [standing, hbound]
      rfl
    · change f.registry.firstOffset f.firstPoll bytes.length ≤ bytes.length
      omega
    · change Lines.tail (bytes.drop (f.registry.firstOffset f.firstPoll bytes.length)) = []
      rcases hoffset with hzero | hsize
      · rw [hzero]
        exact hended
      · rw [hsize, List.drop_length]
        rfl
  | some previous =>
    obtain ⟨hmem, rfl⟩ := (boundTo_eq_some_iff h.distinct).mp hbound
    obtain ⟨old, hold, -, hends, hoffset, -⟩ := h.behind previous hmem
    obtain ⟨more, hmore⟩ := he.grows previous.path old hold
    obtain rfl := Option.some.inj (hb.symm.trans hmore)
    refine ⟨_, rfl, rfl, hb, hne, ?_, rfl, rfl, ?_, ?_⟩
    · change _ = (f.standing previous.path).getD _
      rw [standing, hbound]
      rfl
    · change previous.offset ≤ _
      rw [hoffset, List.length_append]
      exact Nat.le_add_right _ _
    · change Lines.tail ((old ++ more).drop previous.offset) = []
      rw [hoffset, List.drop_left]
      rwa [(Lines.cut_append_of_ended hends more).2] at hended

/-- A reading by a reader that a poll has taken up reads the rest of the file. -/
structure Finishes (settings : ReadSettings) (r : Reader) (sink : Sink) (bytes : Bytes)
    (reading : Reading) : Prop where
  willing : reading.sink.Willing
  accepted : reading.sink.accepted =
    sink.accepted ++ r.standing.events settings r.fileAttributes bytes
  standing : reading.reader.standing = r.standing.past settings bytes
  fingerprint : reading.reader.fingerprint = r.fingerprint
  path : reading.reader.path = r.path

theorem Takes.finishes {r : Reader} (ht : Takes settings f e r bytes) (hs : settings.Tailing)
    (he : e.Extends settings before) {sink : Sink} (hw : sink.Willing) :
    Finishes settings.toReadSettings r sink bytes
      (r.readToEnd settings.toReadSettings e.fs sink) := by
  have hpasses := Reader.passesAll_readToEnd hs.lined (he.opens _ _ ht.stock) ht.le ht.ended hw
  have htidy := (he.tidy _ _ ht.stock).drop r.offset
  have htexts : Lines.texts (r.itemsOf settings.toReadSettings bytes) =
      Lines.contents (bytes.drop r.offset) := Lines.texts_items htidy _
  have hoffset : (r.readToEnd settings.toReadSettings e.fs sink).reader.offset = bytes.length := by
    rw [hpasses.offset, Reader.itemsOf, Lines.stop_items htidy ht.ended, List.length_drop]
    exact Nat.add_sub_cancel' ht.le
  refine ⟨hpasses.willing, ?_, ?_, hpasses.fingerprint ht.fingerprint,
    (Reader.read_keeps _ _ _ _ _).path⟩
  · rw [hpasses.accepted, htexts]
    rfl
  · rw [Reader.standing, hpasses.header, htexts, hoffset]
    rfl

/-! ## A poll -/

theorem Abreast.exists_takes (h : Abreast settings before f) (hs : settings.Tailing)
    (he : e.Extends settings before) (hb : e.stock path = some bytes) (hne : bytes ≠ []) :
    ∃ r ∈ (e.world f).resolved.1, r.path = path ∧ Takes settings f e r bytes := by
  obtain ⟨g, hg, -⟩ := (h.known hs he).resolves
  obtain ⟨r, hr, hpath, ht⟩ := h.takes he hb hne
  rw [hg]
  exact ⟨r, List.mem_filterMap.mpr ⟨path, (he.found path).mpr ⟨bytes, hb⟩, hr⟩, hpath, ht⟩

theorem Abreast.takes_of_mem (h : Abreast settings before f) (hs : settings.Tailing)
    (he : e.Extends settings before) {r : Reader} (hr : r ∈ (e.world f).resolved.1) :
    ∃ bytes, Takes settings f e r bytes := by
  obtain ⟨g, hg, -⟩ := (h.known hs he).resolves
  rw [hg] at hr
  obtain ⟨path, hp, hfollow⟩ := List.mem_filterMap.mp hr
  obtain ⟨bytes, hb⟩ := (he.found path).mp hp
  by_cases hne : bytes = []
  · have hnone : follow { f with registry := f.registry.beginPoll } e.fs f.boundTo path = none := by
      rw [follow, he.opens path bytes hb]
      exact if_pos hne
    cases hnone.symm.trans hfollow
  · obtain ⟨r', hr', -, ht⟩ := h.takes he hb hne
    cases hr'.symm.trans hfollow
    exact ⟨bytes, ht⟩

/-- Each reading of a poll reads the rest of a file. -/
theorem Abreast.finishes (h : Abreast settings before f) (hs : settings.Tailing)
    (he : e.Extends settings before) {x : Passage} (hx : x ∈ (e.world f).readings.1) :
    ∃ bytes, Takes settings f e x.reader bytes ∧
      Finishes settings.toReadSettings x.reader x.before bytes x.reading := by
  have hreads {r : Reader} (hr : r ∈ (e.world f).resolved.1) {sink : Sink} (hw : sink.Willing) :
      ∃ bytes, Takes settings f e r bytes ∧ Finishes settings.toReadSettings r sink bytes
        (r.readToEnd f.settings.toReadSettings e.fs sink) := by
    obtain ⟨bytes, ht⟩ := h.takes_of_mem hs he hr
    rw [h.settings_eq]
    exact ⟨bytes, ht, ht.finishes hs he hw⟩
  have hwilling : x.before.Willing := by
    refine before_passages (fun r hr sink hw => ?_) he.willing hx
    obtain ⟨bytes, -, hfinishes⟩ := hreads hr hw
    exact hfinishes.willing
  have hreading : x.reading = x.reader.readToEnd f.settings.toReadSettings e.fs x.before :=
    reading_of_mem_passages hx
  rw [hreading]
  exact hreads (World.reader_mem_of_mem_readings hx) hwilling

/-- The readers behind a poll are those that have read the files. -/
theorem Abreast.readers_poll (h : Abreast settings before f) (hs : settings.Tailing)
    (he : e.Extends settings before) :
    (e.world f).poll.2.follower.registry.readers =
      (e.world f).readings.1.map (·.reading.reader) := by
  have hd : (e.world f).follower.settings.deleteAfterRead = false := by
    change f.settings.deleteAfterRead = false
    rw [h.settings_eq]
    exact hs.keeps
  rw [(World.polled hd).readers, (h.known hs he).current_resolved, List.nil_append]

/-- **A poll keeps a follower abreast.** -/
theorem Abreast.poll (h : Abreast settings before f) (hs : settings.Tailing)
    (he : e.Extends settings before) :
    Abreast settings e.stock (e.world f).poll.2.follower := by
  have hreaders := h.readers_poll hs he
  refine ⟨World.poll_idle _ h.toIdle, ?_, fun r hr => ?_, fun path bytes hb hne => ?_⟩
  · have hpaths : (e.world f).readings.1.map (·.reading.reader.path) =
        (e.world f).readings.1.map (·.reader.path) := by
      refine List.map_congr_left fun x hx => ?_
      obtain ⟨_, -, hfinishes⟩ := h.finishes hs he hx
      exact hfinishes.path
    rw [hreaders, List.map_map]
    exact hpaths ▸ (h.known hs he).nodup_paths
  · rw [hreaders] at hr
    obtain ⟨x, hx, rfl⟩ := List.mem_map.mp hr
    obtain ⟨bytes, ht, hfinishes⟩ := h.finishes hs he hx
    refine ⟨bytes, ?_, ht.nonempty, he.ended _ _ ht.stock, congrArg Standing.offset hfinishes.standing,
      hfinishes.fingerprint.trans ht.fingerprint⟩
    rw [hfinishes.path]
    exact ht.stock
  · obtain ⟨r, hr, hpath, -⟩ := h.exists_takes hs he hb hne
    rw [← World.map_reader_readings] at hr
    obtain ⟨x, hx, rfl⟩ := List.mem_map.mp hr
    obtain ⟨_, -, hfinishes⟩ := h.finishes hs he hx
    rw [hreaders]
    exact ⟨x.reading.reader, List.mem_map_of_mem hx, hfinishes.path.trans hpath⟩

/-- **What a poll takes from a file** with bytes are the events behind the place where its reader stood, or
begins if there was none. -/
theorem Abreast.taken (h : Abreast settings before f) (hs : settings.Tailing)
    (he : e.Extends settings before) (hb : e.stock path = some bytes) (hne : bytes ≠ []) :
    let s := (f.standing path).getD (f.entry settings.toReadSettings bytes.length)
    (e.world f).taken path = s.events settings.toReadSettings
        (settings.fileAttributes.attributes e.fs path) bytes ∧
      (e.world f).poll.2.follower.standing path = some (s.past settings.toReadSettings bytes) := by
  obtain ⟨r, hr, rfl, ht⟩ := h.exists_takes hs he hb hne
  rw [← World.map_reader_readings] at hr
  obtain ⟨x, hx, rfl⟩ := List.mem_map.mp hr
  obtain ⟨bytes', ht', hfinishes⟩ := h.finishes hs he hx
  obtain rfl : bytes = bytes' := Option.some.inj (ht.stock.symm.trans ht'.stock)
  have hbound : (e.world f).poll.2.follower.boundTo x.reader.path = some x.reading.reader := by
    rw [boundTo_eq_some_iff (h.poll hs he).distinct, h.readers_poll hs he]
    exact ⟨List.mem_map_of_mem hx, hfinishes.path⟩
  constructor
  · rw [(h.known hs he).taken_eq hx, Passage.delivered, hfinishes.accepted, List.drop_left,
      ht.standing, ht.fileAttributes]
  · rw [standing, hbound, Option.map_some, hfinishes.standing, ht.standing]

/-- Nothing is taken from a path without bytes, and it has no reader. -/
theorem Abreast.taken_of_empty (h : Abreast settings before f) (hs : settings.Tailing)
    (he : e.Extends settings before) (hb : ∀ bytes, e.stock path = some bytes → bytes = []) :
    (e.world f).taken path = [] := by
  refine (h.known hs he).taken_of_unread fun x hx hpath => ?_
  obtain ⟨bytes, ht, -⟩ := h.finishes hs he hx
  exact ht.nonempty (hb bytes (hpath ▸ ht.stock))

theorem Abreast.standing_of_empty {stock : Stock} (h : Abreast settings stock f)
    (hb : ∀ bytes, stock path = some bytes → bytes = []) : f.standing path = none := by
  cases hbound : f.boundTo path with
  | none =>
    rw [standing, hbound]
    rfl
  | some r =>
    obtain ⟨hmem, hpath⟩ := (boundTo_eq_some_iff h.distinct).mp hbound
    obtain ⟨bytes, hstock, hne, -⟩ := h.behind r hmem
    exact absurd (hb bytes (hpath ▸ hstock)) hne

end Follower

end LogFollow
