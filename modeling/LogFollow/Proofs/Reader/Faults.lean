import LogFollow.Proofs.Reader.Oversized

/-!
# Readings of one file with faulty sinks

Any number of readings of a file that does not change, each with a sink that may refuse an event, break
down over one, or be cancelled at any time. A reader that was made for the file has then passed a
beginning of it that ends with a line, unless it is all of the file, and the sinks have accepted the
events of just this beginning. Two readings without a fault complete them.
-/
namespace LogFollow

namespace Reader

variable {settings : ReadSettings} {content front back : Bytes} {fs : FileSystem} {r : Reader}
  {events : List Event}

/-- Readings one after another, each with a sink of its own: the reader in the end, and the events that
the sinks have accepted. -/
def readEach (settings : ReadSettings) : Reader → List (FileSystem × Sink) → Reader × List Event
  | r, [] => (r, [])
  | r, (fs, sink) :: calls =>
    let reading := r.readToEnd settings fs { sink with accepted := [] }
    let (last, events) := readEach settings reading.reader calls
    (last, reading.sink.accepted ++ events)

theorem readEach_append (r : Reader) (calls more : List (FileSystem × Sink)) :
    readEach settings r (calls ++ more) =
      ((readEach settings (readEach settings r calls).1 more).1,
        (readEach settings r calls).2 ++
          (readEach settings (readEach settings r calls).1 more).2) := by
  induction calls generalizing r with
  | nil => rfl
  | cons call calls ih =>
    simp only [List.cons_append, readEach, ih, List.append_assoc]

/-- A reader that was made as `first`, before the header, has passed the beginning `front` of the file;
`events` have been accepted. -/
structure Passed (settings : ReadSettings) (first : Reader) (content : Bytes) (events : List Event)
    (front back : Bytes) (r : Reader) : Prop where
  split : content = front ++ back
  ended : Lines.tail front = [] ∨ back = []
  offset : r.offset = front.length
  events : events = first.header.events settings first.fileAttributes (Lines.tokens front)
  header : (first.header.past settings (Lines.tokens front)).Awaits settings (Lines.tokens back)
    r.header
  path : r.path = first.path
  fileAttributes : r.fileAttributes = first.fileAttributes

theorem Passed.first (settings : ReadSettings) {first : Reader} (h : first.offset = 0)
    (content : Bytes) : Passed settings first content [] [] content first :=
  ⟨rfl, .inl rfl, h, rfl, .same, rfl, rfl⟩

/-- The tokens of what has been passed are a beginning of the tokens of the file. -/
theorem tokens_split (hs : content = front ++ back) (he : Lines.tail front = [] ∨ back = []) :
    Lines.tokens content = Lines.tokens front ++ Lines.tokens back := by
  rcases he with he | rfl
  · rw [hs, Lines.tokens_append he]
  · rw [hs, List.append_nil]
    exact (List.append_nil _).symm

/-- What is passed behind a beginning that ends with a line makes a longer one. -/
theorem tokens_further {more left : Bytes} (he : Lines.tail front = [] ∨ back = [])
    (hs : back = more ++ left) (hm : Lines.tail more = [] ∨ left = []) :
    Lines.tokens (front ++ more) = Lines.tokens front ++ Lines.tokens more ∧
      (Lines.tail (front ++ more) = [] ∨ left = []) := by
  have hnil : back = [] → more = [] ∧ left = [] := by
    rintro rfl
    exact List.append_eq_nil_iff.mp hs.symm
  refine ⟨tokens_split rfl (he.imp_right fun hb => (hnil hb).1), ?_⟩
  rcases he with hfront | hback
  · refine hm.imp_left fun ht => ?_
    rw [(Lines.cut_append_of_ended hfront more).2, ht]
  · exact .inr (hnil hback).2

/-- One more reading goes on where the reader stands. -/
theorem Passed.read {first : Reader} (hp : settings.Lined)
    (hshort : Lines.Short settings.maxLogSize content)
    (h : Passed settings first content events front back r)
    (ho : fs.openPath first.path = .ok (.file content)) (sink : Sink) :
    ∃ more left,
      Passed settings first content
          (events ++ (r.readToEnd settings fs { sink with accepted := [] }).sink.accepted)
          (front ++ more) left (r.readToEnd settings fs { sink with accepted := [] }).reader ∧
        (r.readToEnd settings fs { sink with accepted := [] }).reader.lastSeenSize =
          content.length ∧
        (sink.Willing → Lines.newline ∉ left ∧
          (r.lastSeenSize = content.length → Lines.newline ∉ back → left = [])) := by
  have hdrop : content.drop r.offset = back := by rw [h.offset, h.split, List.drop_left]
  have hle : r.offset ≤ content.length := by
    rw [h.offset, h.split, List.length_append]
    omega
  obtain ⟨more, left, hmore⟩ := proceeds_readOpened hp (hshort.drop r.offset)
    { sink with accepted := [] } settings.deleteAfterRead
  rw [← read_of_openPath (by rw [h.path]; exact ho) hle, ← readToEnd] at hmore
  generalize r.readToEnd settings fs { sink with accepted := [] } = reading at hmore
  -- The reading ends where a token ends, so that the tokens of the parts are those of the whole.
  have hsplit : back = more ++ left := hdrop.symm.trans hmore.split
  have htokens : Lines.tokens back = Lines.tokens more ++ Lines.tokens left :=
    tokens_split hsplit hmore.ended
  obtain ⟨hfront, hended⟩ := tokens_further h.ended hsplit hmore.ended
  have hawaits := h.header
  rw [htokens] at hawaits
  refine ⟨more, left, ⟨?_, hended, ?_, ?_, ?_, ?_, ?_⟩, by rw [hmore.reader], fun hw => ?_⟩
  · rw [h.split, hsplit, List.append_assoc]
  · rw [hmore.reader, List.length_append, h.offset]
  · rw [hfront, HeaderState.events_append, ← h.events, hmore.accepted, h.fileAttributes,
      hawaits.events]
    rfl
  · rw [hfront, HeaderState.past_append]
    exact hawaits.past.trans hmore.header
  · rw [hmore.reader, h.path]
  · rw [hmore.reader, h.fileAttributes]
  · have hw' : Sink.Willing { sink with accepted := [] } := ⟨hw.accepts, hw.goes, hw.uninterrupted⟩
    refine ⟨(hmore.willing hw').2, fun hq hn => hmore.whole hw' (.inr ⟨hq.symm, ?_⟩)⟩
    rwa [hdrop]

/-- Any number of readings go on, one after another. -/
theorem Passed.readEach {first : Reader} (hp : settings.Lined)
    (hshort : Lines.Short settings.maxLogSize content) {calls : List (FileSystem × Sink)}
    (ho : ∀ call ∈ calls, call.1.openPath first.path = .ok (.file content))
    (h : Passed settings first content events front back r) :
    ∃ more left, Passed settings first content (events ++ (readEach settings r calls).2)
      (front ++ more) left (readEach settings r calls).1 := by
  induction calls generalizing r events front back with
  | nil =>
    refine ⟨[], back, ?_⟩
    rw [List.append_nil]
    simpa only [Reader.readEach, List.append_nil] using h
  | cons call calls ih =>
    obtain ⟨fs, sink⟩ := call
    obtain ⟨hopen, hrest⟩ := List.forall_mem_cons.mp ho
    obtain ⟨more, left, hread, -⟩ := h.read hp hshort hopen sink
    obtain ⟨more', left', heach⟩ := ih hrest hread
    refine ⟨more ++ more', left', ?_⟩
    rwa [List.append_assoc, List.append_assoc] at heach

/-- Two readings without a fault pass the rest of the file: the first one all its lines, the second one
the tail, since the file has not grown in between. -/
theorem Passed.read_twice {first : Reader} (hp : settings.Lined)
    (hshort : Lines.Short settings.maxLogSize content)
    (h : Passed settings first content events front back r) {fs fs' : FileSystem}
    (ho : fs.openPath first.path = .ok (.file content))
    (ho' : fs'.openPath first.path = .ok (.file content)) {sink sink' : Sink}
    (hw : sink.Willing) (hw' : sink'.Willing) :
    let once := r.readToEnd settings fs { sink with accepted := [] }
    let twice := once.reader.readToEnd settings fs' { sink' with accepted := [] }
    Passed settings first content (events ++ once.sink.accepted ++ twice.sink.accepted) content []
      twice.reader := by
  obtain ⟨more, left, hread, hseen, hnone⟩ := h.read hp hshort ho sink
  obtain ⟨more', left', hread', -, hrest⟩ := hread.read hp hshort ho' sink'
  have hleft : left' = [] := (hrest hw').2 hseen (hnone hw).1
  have hsplit := hread'.split
  rw [hleft, List.append_nil] at hsplit
  rwa [hleft, ← hsplit] at hread'

/-- **Faults neither lose nor repeat events.** Readings of a file that does not change, with whatever
sinks, have passed a beginning of it, which ends with a line unless it is all of the file, and have
delivered its events, which are the first ones of the file. Two further readings without a fault
deliver the rest. -/
theorem readEach_delivers (hp : settings.Lined) (hshort : Lines.Short settings.maxLogSize content)
    (fs : FileSystem) (path : String) (fingerprint : Fingerprint)
    {calls : List (FileSystem × Sink)}
    (ho : ∀ call ∈ calls, call.1.openPath path = .ok (.file content)) :
    let first := Reader.new settings fs path fingerprint 0
    let after := readEach settings first calls
    (∃ front back, content = front ++ back ∧ (Lines.tail front = [] ∨ back = []) ∧
        after.1.offset = front.length ∧
        after.2 = settings.eventsOf first.fileAttributes (Lines.tokens front)) ∧
      after.2 <+: settings.eventsOf first.fileAttributes (Lines.tokens content) ∧
      ∀ call call' : FileSystem × Sink,
        call.1.openPath path = .ok (.file content) → call'.1.openPath path = .ok (.file content) →
        call.2.Willing → call'.2.Willing →
        (readEach settings first (calls ++ [call, call'])).2 =
          settings.eventsOf first.fileAttributes (Lines.tokens content) := by
  intro first after
  have hinitial : first.header = .initial settings := rfl
  have hfirst : Passed settings first content [] [] content first := .first settings rfl content
  obtain ⟨front, back, h⟩ := hfirst.readEach hp hshort ho
  rw [List.nil_append, List.nil_append] at h
  have hevents : after.2 = settings.eventsOf first.fileAttributes (Lines.tokens front) := by
    rw [← HeaderState.events_initial, ← hinitial]
    exact h.events
  refine ⟨⟨front, back, h.split, h.ended, h.offset, hevents⟩, ?_, ?_⟩
  · rw [hevents, ← HeaderState.events_initial, ← HeaderState.events_initial,
      tokens_split h.split h.ended, HeaderState.events_append]
    exact List.prefix_append _ _
  · rintro ⟨fs, sink⟩ ⟨fs', sink'⟩ ho ho' hw hw'
    rw [readEach_append, ← HeaderState.events_initial, ← hinitial]
    rw [← (h.read_twice hp hshort ho ho' hw hw').events]
    simp only [readEach, List.append_nil, List.append_assoc]

/-- Settings of files with lines of at most eight bytes, whose leading lines `k=v` are header lines. -/
def headedLines : ReadSettings where
  fingerprintSize := 1000
  maxLogSize := 8
  encoding := .charset .utf8
  framing := Encoding.lines (.charset .utf8)
  header := some fun line => if line = "k=v" then some ("k", "v") else none
  fileAttributes := ⟨true, false, false, false⟩
  deleteAfterRead := false

/-- The header line `k=v`, the line `x`, an empty line and the tail `yy`. -/
def headed : Bytes := [0x6B, 0x3D, 0x76, 0x0A, 0x78, 0x0A, 0x0A, 0x79, 0x79]

/-- A sink that refuses the first event, one that breaks down over the second, and a cancelled one. -/
def faultySinks : List Sink :=
  [{ reaction := fun _ => .refuse },
    { reaction := fun n => if n = 0 then .accept else .breakDown "full" },
    { reaction := fun _ => .accept, cancelled := true }]

/-- The first reading ends the header and delivers nothing, the second one delivers `x`. -/
theorem readEach_delivers_headed :
    let fs := oneFile headed
    headedLines.Lined ∧ Lines.Short headedLines.maxLogSize headed ∧
      (∀ call ∈ faultySinks.map (fs, ·), call.1.openPath "a.log" = .ok (.file headed)) ∧
      (readEach headedLines (.new headedLines fs "a.log" ⟨[]⟩ 0)
          (faultySinks.map (fs, ·) ++ [(fs, .healthy), (fs, .healthy)])).2 =
        [⟨.text "x", .ofList [("file_name", "a.log"), ("k", "v")]⟩,
          ⟨.text "yy", .ofList [("file_name", "a.log"), ("k", "v")]⟩] := by
  intro fs
  have hp : headedLines.Lined := ⟨rfl, rfl, by decide⟩
  have hshort : Lines.Short headedLines.maxLogSize headed := (Lines.short_iff _ _).mpr (by decide)
  have ho : fs.openPath "a.log" = .ok (.file headed) :=
    FileSystem.openPath_name FileSystem.isName_logs.1 rfl rfl
  have hcalls : ∀ call ∈ faultySinks.map (fs, ·), call.1.openPath "a.log" = .ok (.file headed) := by
    intro call hc
    obtain ⟨sink, -, rfl⟩ := List.mem_map.mp hc
    exact ho
  refine ⟨hp, hshort, hcalls, ?_⟩
  have hall := (readEach_delivers hp hshort fs "a.log" ⟨[]⟩ hcalls).2.2 (fs, .healthy)
    (fs, .healthy) ho ho Sink.healthy_willing Sink.healthy_willing
  exact hall.trans (by decide +kernel)

end Reader

end LogFollow
