import LogFollow.Proofs.Reader.File
import LogFollow.Proofs.Scanner.Places

/-!
# Where delivered events stand

The events that a reading delivers are those of slices of the file, one behind another, between the place
where the reading begins and the offset that it leaves. This holds whatever the sink does, and whether the
lines fit or not. The last reading of a reader delivers something only if the file at its path matches
its fingerprint.
-/
namespace LogFollow

/-- An event with the place of its token in the file. -/
structure Excerpt where
  place : Span
  event : Event

/-- These are the events of slices of a file, one behind another, between two places. -/
structure Excerpts (settings : ReadSettings) (content : Bytes) (start stop : Nat)
    (excerpts : List Excerpt) : Prop where
  bodies : ∀ x ∈ excerpts,
    x.event.body = settings.encoding.body (Bytes.slice content x.place.start x.place.stop)
  within : ∀ x ∈ excerpts, start ≤ x.place.start ∧ x.place.start < x.place.stop ∧
    x.place.stop ≤ stop ∧ x.place.stop ≤ content.length
  ordered : excerpts.Pairwise fun x y => x.place.stop ≤ y.place.start

namespace Excerpts

variable {settings : ReadSettings} {content : Bytes} {start mid stop : Nat}
  {excerpts more : List Excerpt}

theorem nil (settings : ReadSettings) (content : Bytes) (start stop : Nat) :
    Excerpts settings content start stop [] :=
  ⟨fun _ h => absurd h List.not_mem_nil, fun _ h => absurd h List.not_mem_nil, .nil⟩

theorem widen (h : Excerpts settings content start stop excerpts) {start' stop' : Nat}
    (hs : start' ≤ start) (ht : stop ≤ stop') : Excerpts settings content start' stop' excerpts := by
  refine ⟨h.bodies, fun x hx => ?_, h.ordered⟩
  have hw := h.within x hx
  omega

theorem append (h : Excerpts settings content start mid excerpts)
    (h' : Excerpts settings content mid stop more) (hs : start ≤ mid) (ht : mid ≤ stop) :
    Excerpts settings content start stop (excerpts ++ more) := by
  refine ⟨?_, ?_, List.pairwise_append.mpr ⟨h.ordered, h'.ordered, fun x hx y hy => ?_⟩⟩
  · intro x hx
    exact (List.mem_append.mp hx).elim (h.bodies x) (h'.bodies x)
  · intro x hx
    rcases List.mem_append.mp hx with hx | hx
    · have hw := h.within x hx
      omega
    · have hw := h'.within x hx
      omega
  · have hw := h.within x hx
    have hw' := h'.within y hy
    omega

/-- A token that has a body has an event, unless it is a header line. -/
theorem of_token (settings : ReadSettings) (file : Attributes) (h : HeaderState) {place : Span}
    {token : Bytes} (hp : place.start ≤ place.stop) (hl : place.stop ≤ content.length)
    (ht : Bytes.slice content place.start place.stop = token) :
    ∃ excerpts : List Excerpt, h.events settings file (Lines.text (.token token)) =
        excerpts.map (·.event) ∧
      Excerpts settings content place.start place.stop excerpts := by
  by_cases hempty : token = []
  · rw [Lines.text, if_pos hempty]
    exact ⟨[], rfl, nil _ _ _ _⟩
  · rw [Lines.text, if_neg hempty]
    rcases hm : h.meet settings token with ⟨_ | _, h'⟩
    · refine ⟨[⟨place, h'.event settings file token⟩], HeaderState.events_delivered hm [], ?_, ?_, ?_⟩
      · intro x hx
        obtain rfl := List.mem_singleton.mp hx
        rw [ht]
        rfl
      · intro x hx
        obtain rfl := List.mem_singleton.mp hx
        refine ⟨Nat.le_refl _, Nat.lt_of_le_of_ne hp fun he => hempty ?_, Nat.le_refl _, hl⟩
        rw [← ht, Bytes.slice, he, Nat.sub_self, List.take_zero]
      · exact List.pairwise_singleton _ _
    · exact ⟨[], HeaderState.events_headerLine hm [], nil _ _ _ _⟩

end Excerpts

/-! ## Sessions -/

namespace Session

/-- From `s` to `t` the sink has accepted events of the file, which stand between the two offsets. -/
structure Quotes (settings : ReadSettings) (content : Bytes) (s t : Session) : Prop where
  accepted : ∃ excerpts : List Excerpt,
    t.sink.accepted = s.sink.accepted ++ excerpts.map (·.event) ∧
      Excerpts settings content s.reader.offset t.reader.offset excerpts
  offset : s.reader.offset ≤ t.reader.offset
  decoder : t.decoder.encoding = s.decoder.encoding

variable {settings : ReadSettings} {content : Bytes} {scanner u : Scanner} {s t : Session}

theorem Quotes.refl (settings : ReadSettings) (content : Bytes) (s : Session) :
    Quotes settings content s s :=
  ⟨⟨[], (List.append_nil _).symm, .nil _ _ _ _⟩, Nat.le_refl _, rfl⟩

theorem Quotes.trans {t' : Session} (h : Quotes settings content s t)
    (h' : Quotes settings content t t') : Quotes settings content s t' := by
  obtain ⟨excerpts, ha, he⟩ := h.accepted
  obtain ⟨more, ha', he'⟩ := h'.accepted
  refine ⟨⟨excerpts ++ more, ?_, he.append he' h.offset h'.offset⟩,
    Nat.le_trans h.offset h'.offset, h'.decoder.trans h.decoder⟩
  rw [ha', ha, List.map_append, List.append_assoc]

theorem quotes_looked (settings : ReadSettings) (content : Bytes) (s : Session) :
    Quotes settings content s s.looked :=
  ⟨⟨[], (Sink.accepted_look _).trans (List.append_nil _).symm, .nil _ _ _ _⟩, Nat.le_refl _, rfl⟩

theorem quotes_advance (settings : ReadSettings) (content : Bytes) {place : Nat}
    (h : s.reader.offset ≤ place) : Quotes settings content s (s.advance place) :=
  ⟨⟨[], (List.append_nil _).symm, .nil _ _ _ _⟩, h, rfl⟩

/-- A token that was found is delivered and passed, or not delivered. -/
theorem quotes_emit {token : Bytes} (hd : s.decoder.encoding = settings.encoding)
    (hf : scanner.FindsIn content (some (.token token)) u) (hs : s.reader.offset ≤ scanner.position) :
    ((s.emit settings token).1 = .ok () →
      Quotes settings content s ((s.emit settings token).2.advance u.position)) ∧
    ∀ e, (s.emit settings token).1 = .error e →
      Quotes settings content s (s.emit settings token).2 ∧
        (s.emit settings token).2.reader.offset = s.reader.offset := by
  obtain ⟨place, hstart, hplace, hstop, ht⟩ := hf.slice token rfl
  have hl := Nat.le_trans hstop hf.inFile.le
  have he := emits hd token
  generalize s.emit settings token = r at he
  cases he with
  | @passed t h =>
    refine ⟨fun _ => ?_, fun e he => nomatch he⟩
    obtain ⟨excerpts, hx, hex⟩ := Excerpts.of_token settings s.reader.fileAttributes s.reader.header
      hplace hl ht
    refine ⟨⟨excerpts, h.accepted.trans (congrArg _ hx), hex.widen ?_ hstop⟩, ?_, h.decoder⟩
    · exact Nat.le_trans hs hstart
    · exact Nat.le_trans hs hf.le
  | @rejected t e h hw =>
    have hoffset : t.reader.offset = s.reader.offset := (congrArg Reader.offset h.reader).trans rfl
    refine ⟨fun he => (nomatch he), fun _ _ => ⟨⟨⟨[], ?_, .nil _ _ _ _⟩, ?_, h.decoder⟩, hoffset⟩⟩
    · exact h.accepted
    · exact Nat.le_of_eq hoffset.symm

/-- The scanner and the reader stand in the file. -/
structure Stand (content : Bytes) (scanner : Scanner) (s : Session) : Prop where
  inFile : scanner.Over content
  offset : s.reader.offset ≤ scanner.position

theorem Course.quotes {c d : Scanner} {s t : Session} (hc : Course settings c s d t)
    (h : Stand content c s) (hd : s.decoder.encoding = settings.encoding) :
    Quotes settings content s t ∧ Stand content d t := by
  induction hc with
  | starved => exact ⟨.refl _ _ _, h⟩
  | stopped => exact ⟨quotes_looked settings content _, h.inFile, h.offset⟩
  | @ended c c' s result hn =>
    have hnext := h.inFile.next
    rw [hn] at hnext
    exact ⟨quotes_looked settings content s, hnext.inFile, Nat.le_trans h.offset hnext.le⟩
  | @dropped c c' d s t size hn _ ih =>
    have hnext := h.inFile.next
    rw [hn] at hnext
    have hq : Quotes settings content s.looked (s.looked.advance c'.position) :=
      quotes_advance settings content (Nat.le_trans h.offset hnext.le)
    obtain ⟨hmore, hstand⟩ := ih ⟨hnext.inFile, Nat.le_refl _⟩ hd
    exact ⟨((quotes_looked settings content s).trans hq).trans hmore, hstand⟩
  | @rejected c c' s t token e hn he =>
    have hnext := h.inFile.next
    rw [hn] at hnext
    obtain ⟨hq, hstill⟩ := (quotes_emit (s := s.looked) hd hnext h.offset).2 e (congrArg Prod.fst he)
    rw [he] at hq hstill
    refine ⟨(quotes_looked settings content s).trans hq, hnext.inFile, ?_⟩
    rw [hstill]
    exact Nat.le_trans h.offset hnext.le
  | @passed c c' d s s' t token hn he _ ih =>
    have hnext := h.inFile.next
    rw [hn] at hnext
    have hq := (quotes_emit (s := s.looked) hd hnext h.offset).1 (congrArg Prod.fst he)
    rw [he] at hq
    obtain ⟨hmore, hstand⟩ := ih ⟨hnext.inFile, Nat.le_refl _⟩ (hq.decoder.trans hd)
    exact ⟨((quotes_looked settings content s).trans hq).trans hmore, hstand⟩

theorem quotes_deliverRest (h : Stand content scanner s)
    (hd : s.decoder.encoding = settings.encoding) :
    Quotes settings content s (s.deliverRest settings scanner).2.2 := by
  have hrest := h.inFile.takeRemaining
  unfold deliverRest
  generalize scanner.takeRemaining = taken at hrest
  obtain ⟨_ | rest, u⟩ := taken
  · exact .refl _ _ _
  · simp only
    split
    · exact quotes_advance settings content (Nat.le_trans h.offset hrest.le)
    · obtain ⟨hok, herror⟩ := quotes_emit hd hrest h.offset
      generalize s.emit settings rest = emitted at hok herror
      obtain ⟨e | _, t⟩ := emitted
      · exact (herror e rfl).1
      · exact hok rfl

end Session

/-! ## Readings -/

/-- What stands at a path; nothing if no file can be read there. -/
def FileSystem.contentAt (fs : FileSystem) (path : String) : Bytes :=
  match fs.openPath path with
  | .ok (.file content) => content
  | _ => []

/-- These events were accepted in a reading, and they stand in the file between a place and the offset
that the reading leaves. -/
structure Reading.Quotes (settings : ReadSettings) (content : Bytes) (start : Nat) (sink : Sink)
    (reading : Reading) (excerpts : List Excerpt) : Prop where
  accepted : reading.sink.accepted = sink.accepted ++ excerpts.map (·.event)
  excerpts : Excerpts settings content start reading.reader.offset excerpts

theorem Reading.Quotes.none {sink : Sink} {reading : Reading}
    (h : reading.sink.accepted = sink.accepted) (settings : ReadSettings) (content : Bytes)
    (start : Nat) : Quotes settings content start sink reading [] :=
  ⟨h.trans (List.append_nil _).symm, .nil _ _ _ _⟩

namespace Reader

variable {settings : ReadSettings} {content : Bytes}

/-- Where a reading of a file begins: at the offset, unless the file has become shorter. -/
def beginning (r : Reader) (content : Bytes) : Nat := if content.length < r.offset then 0 else r.offset

theorem quotes_conclude (size : Nat) (closing : Bool → Bool) {scanner : Scanner} {s t : Session}
    (ending : Session.Ending) (h : Session.Quotes settings content s t)
    (hs : Session.Stand content scanner t) (hd : s.decoder.encoding = settings.encoding) :
    ∃ excerpts, (conclude settings size closing scanner (ending, t)).Quotes settings content
      s.reader.offset s.sink excerpts := by
  have hquotes {u : Session} (hq : Session.Quotes settings content s u) (v : Scanner)
      (outcome : Except Error ReadOutcome) : ∃ excerpts,
      (u.close v outcome).Quotes settings content s.reader.offset s.sink excerpts := by
    obtain ⟨excerpts, ha, he⟩ := hq.accepted
    exact ⟨excerpts, ha, he⟩
  cases ending with
  | stopped => exact hquotes h _ _
  | failed e => exact hquotes h _ _
  | exhausted framed =>
    rw [conclude]
    split
    · have hrest := h.trans (Session.quotes_deliverRest hs (h.decoder.trans hd))
      generalize t.deliverRest settings scanner = r at hrest
      obtain ⟨_ | _, _, _⟩ := r <;> exact hquotes hrest _ _
    · exact hquotes h _ _

/-- What a reading of what was opened can deliver are the bytes behind the offset. -/
theorem readOpened_quotes (hr : settings.framing.CutsFront) {r : Reader}
    (opened : FileSystem.Opened) (hc : content.drop r.offset = (r.source settings opened).stream)
    (hl : r.offset ≤ content.length) (sink : Sink) (flush : Bool) :
    ∃ excerpts, (r.readOpened settings sink opened flush).Quotes settings content r.offset sink
      excerpts := by
  rw [readOpened_eq]
  split
  · exact ⟨[], .none (by rfl) _ _ _⟩
  · have hstand : Session.Stand content (r.scanner settings opened)
        (r.session settings sink opened.size) := ⟨⟨hr, hc, hl⟩, Nat.le_refl _⟩
    obtain ⟨hq, hs⟩ := (r.course_deliver settings sink opened).quotes hstand rfl
    exact quotes_conclude opened.size _ _ hq hs rfl

/-- A directory holds no events. -/
theorem readOpened_directory (hr : settings.framing.CutsFront) (r : Reader) (sink : Sink)
    (flush : Bool) : (r.readOpened settings sink .directory flush).sink.accepted = sink.accepted := by
  have hlen : (List.replicate r.offset (0 : UInt8)).length = r.offset := List.length_replicate
  have hsource : (List.replicate r.offset (0 : UInt8)).drop r.offset =
      (r.source settings .directory).stream := by
    rw [List.drop_of_length_le (Nat.le_of_eq hlen)]
    unfold source
    simp only
    split <;> rfl
  obtain ⟨excerpts, ha, he⟩ := readOpened_quotes hr .directory hsource (Nat.le_of_eq hlen.symm) sink
    flush
  cases excerpts with
  | nil => exact ha.trans (List.append_nil _)
  | cons x rest =>
    have hw := he.within x List.mem_cons_self
    omega

/-- **A reading delivers slices of the file at its path**, one behind another. -/
theorem read_quotes (hr : settings.framing.CutsFront) (fs : FileSystem) (r : Reader) (sink : Sink)
    (flush : Bool) :
    ∃ excerpts, (r.read settings fs sink flush).Quotes settings (fs.contentAt r.path)
      (r.beginning (fs.contentAt r.path)) sink excerpts := by
  unfold read
  cases ho : fs.openPath r.path with
  | error cause => cases cause <;> exact ⟨[], .none (by rfl) _ _ _⟩
  | ok opened =>
    cases opened with
    | file content =>
      have hcontent : fs.contentAt r.path = content := by rw [FileSystem.contentAt, ho]
      have hopened (r' : Reader) (hl : r'.offset ≤ content.length) :=
        readOpened_quotes hr (.file content) (Source.stream_ofContent content r'.offset r'.fingerprint
          settings.fingerprintSize).symm hl sink flush
      obtain ⟨r', hrestart, hzero⟩ : ∃ r', r.restart settings (.file content) = (.ok (), r') ∧
          r'.offset = 0 := ⟨_, rfl, rfl⟩
      rw [hcontent, beginning]
      simp only [hrestart, FileSystem.Opened.size]
      split
      · have hread := hopened r' (by omega)
        rwa [hzero] at hread
      · exact hopened r (by omega)
    | directory =>
      change ∃ excerpts, Reading.Quotes _ _ _ sink (if FileSystem.directorySize < r.offset then
        (⟨.error (.io .isDirectory), { r with offset := 0, lastSeenSize := 0 }, sink⟩ : Reading)
        else r.readOpened settings sink .directory flush) excerpts
      split
      · exact ⟨[], .none (by rfl) _ _ _⟩
      · exact ⟨[], .none (readOpened_directory hr r sink flush) _ _ _⟩

/-- **The last reading of a reader delivers slices of the file at its path**, if that file matches the
fingerprint. -/
theorem retire_quotes (hr : settings.framing.CutsFront) (fs : FileSystem) (r : Reader)
    (sink : Sink) :
    ∃ excerpts, (r.retire settings fs sink).Quotes settings (fs.contentAt r.path)
        (r.beginning (fs.contentAt r.path)) sink excerpts ∧
      (excerpts ≠ [] → ∃ content, fs.openPath r.path = .ok (.file content) ∧
        (Fingerprint.ofContent settings.fingerprintSize content).matchesWith r.fingerprint) := by
  cases ho : fs.openPath r.path with
  | error cause =>
    have hnone : (r.retire settings fs sink).sink.accepted = sink.accepted := by
      rw [retire, ho]
      cases cause <;> rfl
    exact ⟨[], .none hnone _ _ _, fun h => absurd rfl h⟩
  | ok opened =>
    cases opened with
    | directory =>
      have hnone : (r.retire settings fs sink).sink.accepted = sink.accepted := by
        rw [retire, ho]
        rfl
      exact ⟨[], .none hnone _ _ _, fun h => absurd rfl h⟩
    | file content =>
      have hretire : r.retire settings fs sink =
          if (Fingerprint.ofContent settings.fingerprintSize content).matchesWith r.fingerprint then
            r.read settings fs sink true
          else { outcome := .ok ⟨0, false⟩, reader := r, sink } := by
        rw [retire, ho]
        rfl
      rw [hretire]
      split
      · next hm =>
        obtain ⟨excerpts, hq⟩ := read_quotes hr fs r sink true
        exact ⟨excerpts, hq, fun _ => ⟨content, rfl, hm⟩⟩
      · exact ⟨[], .none (by rfl) _ _ _, fun h => absurd rfl h⟩

end Reader

end LogFollow
