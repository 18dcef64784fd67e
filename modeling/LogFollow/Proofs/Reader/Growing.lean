import LogFollow.Proofs.Reader.Faults
import LogFollow.Proofs.Scanner.CodeUnits

/-!
# Readings of a growing file

A file is read each time that something was appended to it. What was appended may end anywhere, within a
line, between a carriage return and its newline, or within a code unit. Each reading delivers the lines
that have ended, and leaves what stands behind the last of them, so that the readings together deliver
what one reading of the whole file does.
-/
namespace LogFollow

namespace Encoding

variable {e : Encoding} {m : Nat} {data more : Bytes}

/-! ## Appending -/

/-- Lines, each with its newline. -/
def joined (e : Encoding) (lines : List Bytes) : Bytes := lines.flatMap fun line => line ++ e.newline

theorem cut_joined_append {lines : List Bytes} (h : ∀ line ∈ lines, e.IsLine line) (rest : Bytes) :
    e.whole (e.joined lines ++ rest) = lines ++ e.whole rest ∧
      e.tail (e.joined lines ++ rest) = e.tail rest := by
  induction lines with
  | nil => exact ⟨rfl, rfl⟩
  | cons line lines ih =>
    obtain ⟨hl, hlines⟩ := List.forall_mem_cons.mp h
    obtain ⟨hw, ht⟩ := ih hlines
    have hsplit : e.joined (line :: lines) ++ rest =
        line ++ (e.newline ++ (e.joined lines ++ rest)) := by
      rw [joined, List.flatMap_cons, joined]
      simp only [List.append_assoc]
    rw [hsplit, whole_line hl, tail_line hl, hw, ht]
    exact ⟨rfl, rfl⟩

theorem joined_whole_append_tail (e : Encoding) (data : Bytes) :
    e.joined (e.whole data) ++ e.tail data = data := e.flatMap_whole_append_tail data

/-- More bytes go on with the tail. -/
theorem cut_append (e : Encoding) (data more : Bytes) :
    e.whole (data ++ more) = e.whole data ++ e.whole (e.tail data ++ more) ∧
      e.tail (data ++ more) = e.tail (e.tail data ++ more) := by
  conv => enter [1, 1]; rw [← e.joined_whole_append_tail data, List.append_assoc]
  conv => enter [2, 1]; rw [← e.joined_whole_append_tail data, List.append_assoc]
  exact cut_joined_append (fun line hl => isLine_of_mem_whole hl) _

/-- The tail is what is left when the lines are passed. -/
theorem drop_eq_tail {place : Nat} (h : place + (e.tail data).length = data.length) :
    data.drop place = e.tail data := by
  have hsplit := e.joined_whole_append_tail data
  have hlen := congrArg List.length hsplit
  rw [List.length_append] at hlen
  have hplace : place = (e.joined (e.whole data)).length := by omega
  conv_lhs => rw [← hsplit]
  rw [hplace, List.drop_left]

/-! ## Small lines -/

/-- No line holds more than `m` bytes, and the tail does not fill the buffer. -/
structure Small (e : Encoding) (m : Nat) (data : Bytes) : Prop where
  lines : ∀ line ∈ e.whole data, (e.trim line).length ≤ m
  tail : (e.tail data).length < e.roomFor m

theorem Small.roomy (h : e.Small m data) : e.Roomy m data := by
  refine ⟨fun line hl => ?_, h.tail⟩
  have hlen := length_le_length_trim (isLine_of_mem_whole hl).dvd
  have hm := h.lines line hl
  rw [roomFor]
  omega

/-- Bytes without a newline in front of a newline end before it does. -/
theorem length_lt_of_append_eq {front line rest : Bytes} (hf : e.newline ∉ e.units front)
    (hl : e.IsLine line) (h : front ++ more = line ++ (e.newline ++ rest)) :
    front.length < line.length + e.codeUnit := by
  by_contra hlt
  rw [Nat.not_lt, ← e.length_newline, ← List.length_append] at hlt
  have hfront : line ++ e.newline <+: front ++ more :=
    ⟨rest, by rw [h, List.append_assoc]⟩
  obtain ⟨x, rfl⟩ := List.prefix_of_prefix_length_le hfront (List.prefix_append front more) hlt
  rw [List.append_assoc, units_line hl.dvd] at hf
  exact hf (List.mem_append_right _ List.mem_cons_self)

/-- What follows the lines of a file with small lines has small lines. -/
theorem Small.behind (h : e.Small m (data ++ more)) : e.Small m (e.tail data ++ more) := by
  obtain ⟨hw, ht⟩ := e.cut_append data more
  refine ⟨fun line hl => h.lines line ?_, ?_⟩
  · rw [hw]
    exact List.mem_append_right _ hl
  · rw [← ht]
    exact h.tail

theorem Small.of_append (h : e.Small m (data ++ more)) : e.Small m data := by
  obtain ⟨hw, ht⟩ := e.cut_append data more
  have hlines := h.lines
  rw [hw] at hlines
  refine ⟨fun line hl => hlines line (List.mem_append_left _ hl), ?_⟩
  rcases e.notMem_or_line (e.tail data ++ more) with hn | ⟨line, rest, hl, hsplit⟩
  · have htail := h.tail
    rw [ht, tail_of_notMem hn, List.length_append] at htail
    omega
  · have hm := hlines line
    rw [hsplit, whole_line hl] at hm
    have hm := hm (List.mem_append_right _ List.mem_cons_self)
    have hlen := length_le_length_trim hl.dvd
    have hlt := length_lt_of_append_eq (e.notMem_tail data) hl hsplit
    rw [roomFor]
    omega

/-- What the lines of a byte string hold, but for the empty ones. -/
def contents (e : Encoding) (data : Bytes) : List Bytes :=
  ((e.whole data).map e.trim).filter (· ≠ [])

theorem contents_line {line : Bytes} (h : e.IsLine line) (rest : Bytes) :
    e.contents (line ++ (e.newline ++ rest)) =
      Lines.text (.token (e.trim line)) ++ e.contents rest := by
  rw [contents, whole_line h, List.map_cons, List.filter_cons, Lines.text, contents]
  by_cases ht : e.trim line = [] <;> simp [ht]

theorem contents_append (e : Encoding) (data more : Bytes) :
    e.contents (data ++ more) = e.contents data ++ e.contents (e.tail data ++ more) := by
  rw [contents, (e.cut_append data more).1, List.map_append, List.filter_append]
  rfl

/-- Small lines are found, and the tail is left. -/
theorem items_of_small (h : e.Small m data) (place : Nat) :
    Lines.texts (e.items m place data) = e.contents data ∧
      Lines.stop place (e.items m place data) + (e.tail data).length = place + data.length ∧
      (e.items m place data).length ≤ data.length := by
  induction data using induct e generalizing place with
  | unended data hn =>
    have htail := h.tail
    rw [tail_of_notMem hn] at htail ⊢
    rw [items_of_notMem hn, if_neg (Nat.not_le.mpr htail), contents, whole_of_notMem hn]
    exact ⟨rfl, rfl, Nat.zero_le _⟩
  | line l rest hl ih =>
    have hpos := e.codeUnit_pos
    have hlines := h.lines
    have htail := h.tail
    rw [whole_line hl] at hlines
    rw [tail_line hl] at htail
    obtain ⟨hm, hrest⟩ := List.forall_mem_cons.mp hlines
    obtain ⟨htexts, hstop, hlen⟩ := ih ⟨hrest, htail⟩ (place + (l.length + e.codeUnit))
    rw [items_line hl, report, if_pos hm, contents_line hl, Lines.texts_cons, htexts, Lines.stop,
      tail_line hl, List.length_cons]
    refine ⟨rfl, ?_, ?_⟩
    · rw [hstop, List.length_append, List.length_append, e.length_newline]
      omega
    · rw [List.length_append, List.length_append, e.length_newline]
      omega

end Encoding

/-! ## Readings -/

/-- Each of the file systems has a file at the path with something appended to it: the first one with
something behind `start`, the last one with `content`. -/
inductive FileSystem.Grows (path : String) : Bytes → List FileSystem → Bytes → Prop
  | done (content : Bytes) : Grows path content [] content
  | append {start piece content : Bytes} {fs : FileSystem} {later : List FileSystem} : piece ≠ [] →
      fs.openPath path = .ok (.file (start ++ piece)) → Grows path (start ++ piece) later content →
      Grows path start (fs :: later) content

/-- Files are cut into lines, and are not deleted when they are read. The buffer may grow to the greatest
line and its terminators. -/
structure ReadSettings.KeepsLines (settings : ReadSettings) : Prop where
  framing : settings.framing = settings.encoding.lines
  sized : settings.framing.Sized settings.maxLogSize
  deleteAfterRead : settings.deleteAfterRead = false

namespace Reader

variable {settings : ReadSettings} {content more : Bytes} {r first : Reader} {fs : FileSystem}
  {events : List Event} {path : String}

/-- A reader that was made as `first` has read the lines of the file; `events` have been accepted. -/
structure Follows (settings : ReadSettings) (first : Reader) (content : Bytes) (events : List Event)
    (r : Reader) : Prop where
  events : events =
    first.header.events settings first.fileAttributes (settings.encoding.contents content)
  header : r.header = first.header.past settings (settings.encoding.contents content)
  offset : r.offset + (settings.encoding.tail content).length = content.length
  lastSeenSize : r.lastSeenSize = content.length
  path : r.path = first.path
  fileAttributes : r.fileAttributes = first.fileAttributes

/-- A reader that was made for a file follows it while it is empty. -/
theorem follows_new (settings : ReadSettings) (fs : FileSystem) (path : String)
    (fingerprint : Fingerprint) :
    Follows settings (.new settings fs path fingerprint 0) [] []
      (.new settings fs path fingerprint 0) := by
  have hn := (settings.encoding.isLine_nil).notMem
  have hc : settings.encoding.contents [] = [] := by
    rw [Encoding.contents, Encoding.whole_of_notMem hn]
    rfl
  refine ⟨?_, ?_, ?_, rfl, rfl, rfl⟩
  · rw [hc]
    rfl
  · rw [hc]
    rfl
  · rw [Encoding.tail_of_notMem hn]
    rfl

/-- A reading of small lines by a willing sink passes them all, and leaves the tail of a file that has
grown. -/
theorem passes_readOpened (hk : settings.KeepsLines) {data : Bytes}
    (hdrop : content.drop r.offset = data)
    (hsmall : settings.encoding.Small settings.maxLogSize data) {sink : Sink} (hw : sink.Willing)
    (hgrown : content.length ≠ r.lastSeenSize) :
    ∃ place s scanner outcome, place + (settings.encoding.tail data).length = r.offset + data.length ∧
      Session.Passes settings (r.session settings sink content.length)
        (settings.encoding.contents data) [] place s ∧
      r.readOpened settings sink (.file content) false = s.close scanner outcome := by
  obtain ⟨htexts, hstop, hcount⟩ := Encoding.items_of_small hsmall r.offset
  have hroomy : settings.encoding.Roomy settings.maxLogSize
      (r.source settings (.file content)).stream := by
    rw [stream_source, hdrop]
    exact hsmall.roomy
  obtain ⟨t, hdrains, -⟩ := (Scanner.inStep_of (hk.framing ▸ hk.sized) (.inr hroomy) r.offset).drains
  rw [stream_source, hdrop, ← hk.framing] at hdrains
  have hlen : data.length = content.length - r.offset := by rw [← hdrop, List.length_drop]
  rw [hlen] at hcount
  obtain ⟨u, -, -, hread⟩ := readOpened_drains hdrains hcount sink false fun hi => hgrown hi.2
  have hruns := Session.runs false (settings.encoding.items settings.maxLogSize r.offset data)
    (s := r.session settings sink content.length) rfl
  obtain ⟨done, rest, hitems, hpasses, -, hall⟩ := hruns.passes
  -- a willing sink lets the run go to its end
  have hexhausted := hruns.willing hw
  obtain rfl := hall _ hexhausted
  rw [List.append_nil] at hitems
  rw [← hitems, htexts] at hpasses
  generalize Session.run settings false _ _ = result at hread hpasses hexhausted
  obtain ⟨ending, s⟩ := result
  obtain rfl := hexhausted
  rw [conclude, if_neg (by simpa using fun _ => hgrown)] at hread
  exact ⟨_, s, u, _, hstop, hpasses, hread⟩

/-- A reading of small lines to which something was appended delivers those that have ended. -/
theorem Follows.read (hk : settings.KeepsLines) (h : Follows settings first content events r)
    (hmore : more ≠ []) (hsmall : settings.encoding.Small settings.maxLogSize (content ++ more))
    (ho : fs.openPath first.path = .ok (.file (content ++ more))) {sink : Sink}
    (hw : sink.Willing) :
    let reading := r.readToEnd settings fs { sink with accepted := [] }
    Follows settings first (content ++ more) (events ++ reading.sink.accepted) reading.reader := by
  intro reading
  have hoff := h.offset
  have hpos : 0 < more.length := List.length_pos_iff.mpr hmore
  have hlen : (content ++ more).length = content.length + more.length := List.length_append
  have hdrop : (content ++ more).drop r.offset = settings.encoding.tail content ++ more := by
    rw [List.drop_append_of_le_length (by omega), Encoding.drop_eq_tail hoff]
  have hread : reading = r.readOpened settings { sink with accepted := [] }
      (.file (content ++ more)) false := by
    rw [← hk.deleteAfterRead]
    exact read_of_openPath (by rw [h.path]; exact ho) (by omega) _ _
  have hgrown : (content ++ more).length ≠ r.lastSeenSize := by
    rw [h.lastSeenSize]
    omega
  have hfresh : Sink.Willing { sink with accepted := [] } := ⟨hw.accepts, hw.goes, hw.uninterrupted⟩
  obtain ⟨place, s, scanner, outcome, hplace, hpasses, hclose⟩ :=
    passes_readOpened hk hdrop hsmall.behind hfresh hgrown
  have hcontents := settings.encoding.contents_append content more
  have haccepted : s.sink.accepted = r.header.events settings r.fileAttributes _ :=
    hpasses.accepted
  have hoffset : s.reader.offset = place := congrArg Reader.offset hpasses.reader
  rw [hread, hclose]
  refine ⟨?_, ?_, ?_, ?_, ?_, ?_⟩
  · rw [hcontents, HeaderState.events_append, ← h.events, ← h.header, ← h.fileAttributes,
      ← haccepted]
    rfl
  · rw [hcontents, HeaderState.past_append, ← h.header]
    exact hpasses.header.eq_of_nil
  · rw [(settings.encoding.cut_append content more).2]
    change s.reader.offset + _ = _
    rw [hoffset, hplace, List.length_append]
    omega
  · exact congrArg Reader.lastSeenSize hpasses.reader
  · exact (congrArg Reader.path hpasses.reader).trans h.path
  · exact (congrArg Reader.fileAttributes hpasses.reader).trans h.fileAttributes

theorem exists_append_of_grows {start : Bytes} {later : List FileSystem}
    (h : FileSystem.Grows path start later content) : ∃ more, content = start ++ more := by
  induction h with
  | done content => exact ⟨[], (List.append_nil content).symm⟩
  | append _ _ _ ih =>
    obtain ⟨more, rfl⟩ := ih
    exact ⟨_, List.append_assoc _ _ _⟩

/-- Readings one after another, each after something was appended. -/
theorem Follows.readEach (hk : settings.KeepsLines) {start : Bytes} {later : List FileSystem}
    (hg : FileSystem.Grows first.path start later content)
    (hsmall : settings.encoding.Small settings.maxLogSize content) {sink : Sink}
    (hw : sink.Willing) (h : Follows settings first start events r) :
    let readings := readEach settings r (later.map fun fs => (fs, sink))
    Follows settings first content (events ++ readings.2) readings.1 := by
  -- what the reader follows grows with the file, and the events with it
  induction hg generalizing events r with
  | done content =>
    simpa only [List.map_nil, Reader.readEach, List.append_nil] using h
  | append hpiece ho hg ih =>
    obtain ⟨more, rfl⟩ := exists_append_of_grows hg
    have hlater := ih hsmall (h.read hk hpiece hsmall.of_append ho hw)
    simp only [List.map_cons, Reader.readEach]
    rwa [← List.append_assoc]

/-- A reading of the whole file by a reader that was made for it. -/
theorem follows_readToEnd (hk : settings.KeepsLines)
    (hsmall : settings.encoding.Small settings.maxLogSize content)
    (ho : fs.openPath path = .ok (.file content)) (made : FileSystem) (fingerprint : Fingerprint) :
    let reading := (new settings made path fingerprint 0).readToEnd settings fs .healthy
    Follows settings (new settings made path fingerprint 0) content reading.sink.accepted
      reading.reader := by
  have hnew := follows_new settings made path fingerprint
  by_cases hc : content = []
  · subst hc
    have hidle : (new settings made path fingerprint 0).readToEnd settings fs .healthy =
        ⟨.ok ⟨0, true⟩, new settings made path fingerprint 0, .healthy⟩ :=
      @read_of_openPath settings fs (new settings made path fingerprint 0) [] ho (Nat.le_refl 0)
        .healthy settings.deleteAfterRead
    rw [hidle]
    exact hnew
  · exact hnew.read hk hc hsmall ho Sink.healthy_willing

/-- **The append schedule does not matter.** A reader that reads a file after each of the pieces in which
it was written has delivered the same events in the end as one that reads the whole file once, has come
to the same offset, and knows the same header. The events are those of what the lines hold; the tail
is left. -/
theorem readEach_grows (hk : settings.KeepsLines)
    (hsmall : settings.encoding.Small settings.maxLogSize content) {later : List FileSystem}
    (hg : FileSystem.Grows path [] later content) (ho : fs.openPath path = .ok (.file content))
    (made made' : FileSystem) (fingerprint fingerprint' : Fingerprint)
    (hattrs : settings.fileAttributes.attributes made path =
      settings.fileAttributes.attributes made' path) :
    let pieces := readEach settings (new settings made path fingerprint 0)
      (later.map fun fs => (fs, .healthy))
    let once := (new settings made' path fingerprint' 0).readToEnd settings fs .healthy
    pieces.2 = once.sink.accepted ∧ pieces.1.offset = once.reader.offset ∧
      pieces.1.header = once.reader.header ∧
      pieces.2 = settings.eventsOf (settings.fileAttributes.attributes made path)
        (settings.encoding.contents content) ∧
      pieces.1.offset + (settings.encoding.tail content).length = content.length := by
  intro pieces once
  have hpieces : Follows settings _ content _ pieces.1 :=
    (follows_new settings made path fingerprint).readEach hk hg hsmall Sink.healthy_willing
  have honce : Follows settings _ content once.sink.accepted once.reader :=
    follows_readToEnd hk hsmall ho made' fingerprint'
  have hevents : pieces.2 = settings.eventsOf (settings.fileAttributes.attributes made path)
      (settings.encoding.contents content) := by
    rw [← HeaderState.events_initial]
    exact hpieces.events
  have hlast := hpieces.offset
  have hlast' := honce.offset
  refine ⟨?_, by omega, hpieces.header.trans honce.header.symm, hevents, hlast⟩
  rw [hevents, hattrs, ← HeaderState.events_initial]
  exact honce.events.symm

/-- Settings of files in UTF-16 with lines of at most eight bytes, whose leading lines `k=v` are header
lines. -/
def headedUnits : ReadSettings :=
  { headedLines with
    encoding := .charset .utf16le
    framing := Encoding.lines (.charset .utf16le) }

/-- The lines `k=v` and `xy` and the tail `z` in UTF-16. -/
def headedPairs : Bytes :=
  [0x6B, 0x00, 0x3D, 0x00, 0x76, 0x00, 0x0A, 0x00, 0x78, 0x00, 0x79, 0x00, 0x0D, 0x00, 0x0A, 0x00,
    0x7A, 0x00]

/-- The file is read when it ends within a code unit of the header line, within the carriage return and
within the newline behind it, and when it is complete. -/
theorem readEach_grows_headedPairs :
    let fs := fun n => oneFile (headedPairs.take n)
    headedUnits.KeepsLines ∧ headedUnits.encoding.Small headedUnits.maxLogSize headedPairs ∧
      FileSystem.Grows "a.log" [] ([3, 13, 15, 18].map fs) headedPairs ∧
      (fs 18).openPath "a.log" = .ok (.file headedPairs) ∧
      (readEach headedUnits (.new headedUnits (fs 3) "a.log" ⟨[]⟩ 0)
          (([3, 13, 15, 18].map fs).map fun fs => (fs, .healthy))).2 =
        [⟨.text "xy", .ofList [("file_name", "a.log"), ("k", "v")]⟩] ∧
      (readEach headedUnits (.new headedUnits (fs 3) "a.log" ⟨[]⟩ 0)
          (([3, 13, 15, 18].map fs).map fun fs => (fs, .healthy))).1.offset = 16 := by
  intro fs
  have hk : headedUnits.KeepsLines := ⟨rfl, by decide, rfl⟩
  have hsmall : headedUnits.encoding.Small headedUnits.maxLogSize headedPairs :=
    ⟨by decide +kernel, by decide +kernel⟩
  have ho (n : Nat) : (fs n).openPath "a.log" = .ok (.file (headedPairs.take n)) :=
    FileSystem.openPath_name FileSystem.isName_logs.1 rfl rfl
  have hg : FileSystem.Grows "a.log" [] ([3, 13, 15, 18].map fs) headedPairs :=
    .append (by decide) (ho 3) <| .append (by decide) (ho 13) <| .append (by decide) (ho 15) <|
      .append (by decide) (ho 18) <| .done headedPairs
  obtain ⟨-, -, -, hevents, hoffset⟩ :=
    readEach_grows hk hsmall hg (ho 18) (fs 3) (fs 18) ⟨[]⟩ ⟨[]⟩ (by decide +kernel)
  refine ⟨hk, hsmall, hg, ho 18, hevents.trans (by decide +kernel), ?_⟩
  have htail : (headedUnits.encoding.tail headedPairs).length = 2 := by decide +kernel
  rw [htail] at hoffset
  exact Nat.add_right_cancel hoffset

/-- A reading of a file that is then deleted passes all of it, the tail as well. -/
theorem readToEnd_of_deleteAfterRead (hp : settings.Plain) (hd : settings.deleteAfterRead = true)
    (hshort : Lines.Short settings.maxLogSize (content.drop r.offset))
    (ho : fs.openPath r.path = .ok (.file content)) (hl : r.offset ≤ content.length) :
    let reading := r.readToEnd settings fs .healthy
    reading.sink.accepted.map (·.body) =
        (Lines.tokens (content.drop r.offset)).map settings.encoding.body ∧
      reading.reader.offset = content.length ∧ reading.reader.path = r.path := by
  intro reading
  obtain ⟨front, back, h⟩ := proceeds_readOpened hp.lined hshort .healthy settings.deleteAfterRead
  rw [← read_of_openPath ho hl .healthy settings.deleteAfterRead, ← readToEnd] at h
  obtain rfl : back = [] := h.whole Sink.healthy_willing (.inl hd)
  have hsplit := h.split
  rw [List.append_nil] at hsplit
  have hevents : reading.sink.accepted = r.header.events settings r.fileAttributes _ := h.accepted
  have hoffset : reading.reader.offset = r.offset + front.length := by
    rw [show reading.reader = _ from h.reader]
  have hpath : reading.reader.path = r.path := by
    rw [show reading.reader = _ from h.reader]
  refine ⟨?_, ?_, hpath⟩
  · rw [hevents, HeaderState.events_of_fixed (HeaderState.meet_of_none hp.header r.header), hsplit,
      List.map_map]
    rfl
  · rw [hoffset, ← hsplit, List.length_drop]
    omega

/-- Settings of files that are deleted when they are read. -/
def deletedLines : ReadSettings := { fourByteLines with deleteAfterRead := true }

/-- The line `ab`. -/
def twoLetters : Bytes := [0x61, 0x62, 0x0A]

/-- Where files are deleted when they are read, the tail is delivered at once: `a` and then `b`, not
`ab`. -/
theorem readEach_deletedLines :
    let fs := fun n => oneFile (twoLetters.take n)
    deletedLines.framing = deletedLines.encoding.lines ∧
      deletedLines.encoding.Small deletedLines.maxLogSize twoLetters ∧
      FileSystem.Grows "a.log" [] ([1, 3].map fs) twoLetters ∧
      (fs 3).openPath "a.log" = .ok (.file twoLetters) ∧
      (readEach deletedLines (.new deletedLines (fs 1) "a.log" ⟨[]⟩ 0)
          (([1, 3].map fs).map fun fs => (fs, .healthy))).2.map (·.body) = [.text "a", .text "b"] ∧
      ((new deletedLines (fs 3) "a.log" ⟨[]⟩ 0).readToEnd deletedLines (fs 3)
        .healthy).sink.accepted.map (·.body) = [.text "ab"] := by
  intro fs
  have hp : deletedLines.Plain := ⟨rfl, rfl, rfl, by decide⟩
  have ho (n : Nat) : (fs n).openPath "a.log" = .ok (.file (twoLetters.take n)) :=
    FileSystem.openPath_name FileSystem.isName_logs.1 rfl rfl
  have hshort (data : Bytes) (h : data.length ≤ 4) : Lines.Short deletedLines.maxLogSize data :=
    fun stretch hs _ => Nat.le_trans hs.length_le h
  have hg : FileSystem.Grows "a.log" [] ([1, 3].map fs) twoLetters :=
    .append (by decide) (ho 1) <| .append (by decide) (ho 3) <| .done twoLetters
  obtain ⟨hfirst, hoffset, hpath⟩ :=
    @readToEnd_of_deleteAfterRead deletedLines (twoLetters.take 1)
      (new deletedLines (fs 1) "a.log" ⟨[]⟩ 0) (fs 1) hp rfl (hshort _ (by decide)) (ho 1)
      (Nat.zero_le _)
  generalize hreading : (new deletedLines (fs 1) "a.log" ⟨[]⟩ 0).readToEnd deletedLines (fs 1)
    .healthy = reading at hfirst hoffset hpath
  obtain ⟨hsecond, -⟩ := @readToEnd_of_deleteAfterRead deletedLines twoLetters reading.reader (fs 3)
    hp rfl (hshort _ (by rw [hoffset]; decide)) (by rw [hpath]; exact ho 3)
    (by rw [hoffset]; decide)
  obtain ⟨honce, -⟩ := @readToEnd_of_deleteAfterRead deletedLines twoLetters
    (new deletedLines (fs 3) "a.log" ⟨[]⟩ 0) (fs 3) hp rfl (hshort _ (by decide)) (ho 3)
    (Nat.zero_le _)
  refine ⟨rfl, ⟨by decide +kernel, by decide +kernel⟩, hg, ho 3, ?_, honce.trans (by decide +kernel)⟩
  have hcalls : (readEach deletedLines (.new deletedLines (fs 1) "a.log" ⟨[]⟩ 0)
      (([1, 3].map fs).map fun fs => (fs, .healthy))).2 =
      reading.sink.accepted ++
        ((reading.reader.readToEnd deletedLines (fs 3) .healthy).sink.accepted ++ []) := by
    rw [← hreading]
    rfl
  rw [hcalls, List.append_nil, List.map_append, hfirst, hsecond, hoffset]
  decide +kernel

end Reader

end LogFollow
