import LogFollow.Proofs.Reader.Frame
import LogFollow.Proofs.Reader.Rebuilt

/-!
# Files that were truncated

A file that is shorter than the offset of its reader is read as a new one: the reader forgets the offset,
the size and the fingerprint, and begins the header again. Where no header is looked for, it keeps the
attributes of a header that it may have from a checkpoint, and puts them into the events of the new file.
Its reading then differs from that of a new reader in these attributes only, and if it has none in
nothing.
-/
namespace LogFollow

/-! ## Without a header rule -/

/-- Two sinks do the same, and have accepted the same bodies. -/
structure Sink.Twin (s t : Sink) : Prop where
  reaction : t.reaction = s.reaction
  offered : t.offered = s.offered
  cancelled : t.cancelled = s.cancelled
  interrupts : t.interrupts = s.interrupts
  looks : t.looks = s.looks
  bodies : t.accepted.map (·.body) = s.accepted.map (·.body)

/-- Two sinks that are offered the same body. -/
theorem Sink.Twin.offer {s t : Sink} (h : s.Twin t) {e e' : Event} (hb : e'.body = e.body) :
    (t.offer e').1 = (s.offer e).1 ∧ (s.offer e).2.Twin (t.offer e').2 := by
  have hbodies : (t.accepted ++ [e']).map (·.body) = (s.accepted ++ [e]).map (·.body) := by
    rw [List.map_append, List.map_append, h.bodies, List.map_singleton, List.map_singleton, hb]
  have hoffered : t.offered + 1 = s.offered + 1 := congrArg (· + 1) h.offered
  unfold Sink.offer
  rw [h.reaction, h.offered]
  cases s.reaction s.offered with
  | accept => exact ⟨rfl, rfl, rfl, h.cancelled, h.interrupts, h.looks, hbodies⟩
  | acceptAndCancel => exact ⟨rfl, rfl, rfl, rfl, h.interrupts, h.looks, hbodies⟩
  | refuse => exact ⟨rfl, rfl, rfl, h.cancelled, h.interrupts, h.looks, h.bodies⟩
  | breakDown message => exact ⟨rfl, rfl, rfl, h.cancelled, h.interrupts, h.looks, h.bodies⟩

/-- Two sinks that are looked at. -/
theorem Sink.Twin.look {s t : Sink} (h : s.Twin t) :
    t.look.1 = s.look.1 ∧ s.look.2.Twin t.look.2 := by
  unfold Sink.look
  rw [h.cancelled, h.interrupts, h.looks]
  split
  · exact ⟨rfl, h⟩
  · exact ⟨rfl, h.reaction, h.offered, rfl, rfl, rfl, h.bodies⟩

namespace Session

/-- Two sessions are the same but for the headers of their readers, and the attributes of the events. -/
structure Twin (h h' : HeaderState) (s t : Session) : Prop where
  header : s.reader.header = h
  reader : t.reader = { s.reader with header := h' }
  decoder : t.decoder = s.decoder
  emitted : t.emitted = s.emitted
  sink : s.sink.Twin t.sink

variable {settings : ReadSettings} {h h' : HeaderState} {s t : Session}

theorem Twin.advance (ht : Twin h h' s t) (place : Nat) :
    Twin h h' (s.advance place) (t.advance place) := by
  refine ⟨ht.header, ?_, ht.decoder, ht.emitted, ht.sink⟩
  rw [Session.advance, ht.reader]
  rfl

theorem Twin.looked (ht : Twin h h' s t) :
    t.sink.look.1 = s.sink.look.1 ∧ Twin h h' s.looked t.looked :=
  ⟨ht.sink.look.1, ht.header, ht.reader, ht.decoder, ht.emitted, ht.sink.look.2⟩

theorem takeHeader_of_none (hn : settings.header = none) (s : Session) (body : Body) :
    s.takeHeader settings body = (false, s) := by
  unfold takeHeader
  rw [hn]

/-- Where no header is looked for, the header has no say in what becomes of a token. -/
theorem Twin.emit (hn : settings.header = none) (ht : Twin h h' s t) (token : Bytes) :
    (t.emit settings token).1 = (s.emit settings token).1 ∧
      Twin h h' (s.emit settings token).2 (t.emit settings token).2 := by
  unfold Session.emit
  split
  · exact ⟨rfl, ht⟩
  · rw [ht.decoder]
    rcases s.decoder.decode token with ⟨body, decoder⟩
    simp only [takeHeader_of_none hn, Bool.false_eq_true, if_false]
    have hbody : (eventOf t.reader body).body = (eventOf s.reader body).body := rfl
    obtain ⟨hoffer, hsink⟩ := ht.sink.offer hbody
    generalize s.sink.offer (eventOf s.reader body) = offered at hoffer hsink
    generalize t.sink.offer (eventOf t.reader body) = offered' at hoffer hsink
    obtain ⟨offer, sink⟩ := offered
    obtain ⟨offer', sink'⟩ := offered'
    obtain rfl : offer' = offer := hoffer
    cases offer' with
    | accepted => exact ⟨rfl, ht.header, ht.reader, rfl, congrArg (· + 1) ht.emitted, hsink⟩
    | refused => exact ⟨rfl, ht.header, ht.reader, rfl, ht.emitted, hsink⟩
    | broken message => exact ⟨rfl, ht.header, ht.reader, rfl, ht.emitted, hsink⟩

theorem Twin.deliver (hn : settings.header = none) (ht : Twin h h' s t) (fuel : Nat) (framed : Bool)
    (scanner : Scanner) :
    (deliver settings fuel framed scanner t).1 = (deliver settings fuel framed scanner s).1 ∧
      (deliver settings fuel framed scanner t).2.1 =
        (deliver settings fuel framed scanner s).2.1 ∧
      Twin h h' (deliver settings fuel framed scanner s).2.2
        (deliver settings fuel framed scanner t).2.2 := by
  induction fuel generalizing framed scanner s t with
  | zero => exact ⟨rfl, rfl, ht⟩
  | succ fuel ih =>
    obtain ⟨hlook, hlooked⟩ := ht.looked
    rw [Session.deliver, Session.deliver, hlook]
    split
    · exact ⟨rfl, rfl, hlooked⟩
    · rcases scanner.next with ⟨item | _ | _, u⟩
      · cases item with
        | oversized size => exact ih (hlooked.advance u.position) true u
        | token token =>
          obtain ⟨hresult, hemitted⟩ := hlooked.emit hn token
          simp only
          generalize s.looked.emit settings token = emitted at hresult hemitted
          generalize t.looked.emit settings token = emitted' at hresult hemitted
          obtain ⟨result, s'⟩ := emitted
          obtain ⟨result', t'⟩ := emitted'
          obtain rfl : result' = result := hresult
          cases result' with
          | error e => exact ⟨rfl, rfl, hemitted⟩
          | ok _ => exact ih (hemitted.advance u.position) true u
      · exact ⟨rfl, rfl, hlooked⟩
      · exact ⟨rfl, rfl, hlooked⟩

theorem Twin.deliverRest (hn : settings.header = none) (ht : Twin h h' s t) (scanner : Scanner) :
    (t.deliverRest settings scanner).1 = (s.deliverRest settings scanner).1 ∧
      (t.deliverRest settings scanner).2.1 = (s.deliverRest settings scanner).2.1 ∧
      Twin h h' (s.deliverRest settings scanner).2.2 (t.deliverRest settings scanner).2.2 := by
  unfold Session.deliverRest
  rcases scanner.takeRemaining with ⟨_ | rest, u⟩
  · exact ⟨rfl, rfl, ht⟩
  · simp only
    split
    · exact ⟨rfl, rfl, ht.advance u.position⟩
    · obtain ⟨hresult, hemitted⟩ := ht.emit hn rest
      generalize s.emit settings rest = emitted at hresult hemitted
      generalize t.emit settings rest = emitted' at hresult hemitted
      obtain ⟨result, s'⟩ := emitted
      obtain ⟨result', t'⟩ := emitted'
      obtain rfl : result' = result := hresult
      cases result' with
      | error e => exact ⟨rfl, rfl, hemitted⟩
      | ok _ => exact ⟨rfl, rfl, hemitted.advance u.position⟩

end Session

/-- Two readings are the same but for the headers of their readers, and the attributes of the events. -/
structure Reading.Twin (h h' : HeaderState) (a b : Reading) : Prop where
  outcome : b.outcome = a.outcome
  header : a.reader.header = h
  reader : b.reader = { a.reader with header := h' }
  sink : a.sink.Twin b.sink

/-- Sessions that are the same but for their headers end in such readings. -/
theorem Session.Twin.close {h h' : HeaderState} {s t : Session} (ht : Twin h h' s t)
    (scanner : Scanner) (outcome : Except Error ReadOutcome) :
    Reading.Twin h h' (s.close scanner outcome) (t.close scanner outcome) := by
  refine ⟨rfl, ht.header, ?_, ht.sink⟩
  rw [Session.close, ht.reader]
  rfl

namespace Reader

variable {settings : ReadSettings} {fs : FileSystem} {r : Reader} {content : Bytes}

theorem twin_conclude (hn : settings.header = none) {h h' : HeaderState} {s t : Session}
    (ht : Session.Twin h h' s t) (size : Nat) (closing : Bool → Bool) (scanner : Scanner)
    (ending : Session.Ending) :
    Reading.Twin h h' (conclude settings size closing scanner (ending, s))
      (conclude settings size closing scanner (ending, t)) := by
  have hoffset {s t : Session} (ht : Session.Twin h h' s t) : t.reader.offset = s.reader.offset := by
    rw [ht.reader]
  cases ending with
  | stopped =>
    rw [conclude, conclude, ht.emitted]
    exact ht.close scanner _
  | failed e => exact ht.close scanner _
  | exhausted framed =>
    rw [conclude, conclude]
    split
    · obtain ⟨hresult, hscanner, hrest⟩ := ht.deliverRest hn scanner
      generalize s.deliverRest settings scanner = rest at hresult hscanner hrest
      generalize t.deliverRest settings scanner = rest' at hresult hscanner hrest
      obtain ⟨result, u, s'⟩ := rest
      obtain ⟨result', u', t'⟩ := rest'
      obtain rfl : result' = result := hresult
      obtain rfl : u' = u := hscanner
      cases result' with
      | error e => exact hrest.close u' _
      | ok _ =>
        simp only
        rw [hrest.emitted, hoffset hrest]
        exact hrest.close u' _
    · rw [ht.emitted, hoffset ht]
      exact ht.close scanner _

/-- **Where no header is looked for, the header has no say in a reading.** -/
theorem twin_readOpened (hn : settings.header = none) (r : Reader) (h' : HeaderState) (sink : Sink)
    (content : Bytes) (flush : Bool) :
    Reading.Twin r.header h' (r.readOpened settings sink (.file content) flush)
      ({ r with header := h' }.readOpened settings sink (.file content) flush) := by
  by_cases hi : content.length = r.offset ∧ content.length = r.lastSeenSize
  · have hidle (r : Reader) (hi : content.length = r.offset ∧ content.length = r.lastSeenSize) :
        r.readOpened settings sink (.file content) flush = ⟨.ok ⟨0, true⟩, r, sink⟩ := if_pos hi
    rw [hidle r hi, hidle { r with header := h' } hi]
    exact ⟨rfl, rfl, rfl, rfl, rfl, rfl, rfl, rfl, rfl⟩
  · have hgoes (r : Reader) (hi : ¬ (content.length = r.offset ∧ content.length = r.lastSeenSize)) :=
      (readOpened_eq settings r sink (.file content) flush).trans (if_neg hi)
    have hsession : Session.Twin r.header h' (r.session settings sink content.length)
        ({ r with header := h' }.session settings sink content.length) :=
      ⟨rfl, rfl, rfl, rfl, rfl, rfl, rfl, rfl, rfl, rfl⟩
    obtain ⟨hending, hscanner, hdelivered⟩ := hsession.deliver hn (content.length - r.offset + 2)
      false (r.scanner settings (.file content))
    have hending : ({ r with header := h' }.deliver settings sink (.file content)).1 =
        (r.deliver settings sink (.file content)).1 := hending
    have hscanner : ({ r with header := h' }.deliver settings sink (.file content)).2.1 =
        (r.deliver settings sink (.file content)).2.1 := hscanner
    rw [hgoes r hi, hgoes { r with header := h' } hi, hending, hscanner]
    exact twin_conclude hn hdelivered _ _ _ _

theorem twin_cancelledAfter (hn : settings.header = none) (r : Reader) (h' : HeaderState)
    (sink : Sink) (content : Bytes) (n : Nat) :
    Reading.Twin r.header h' (r.cancelledAfter settings sink content n)
      ({ r with header := h' }.cancelledAfter settings sink content n) := by
  have hsession : Session.Twin r.header h' (r.session settings sink content.length)
      ({ r with header := h' }.session settings sink content.length) :=
    ⟨rfl, rfl, rfl, rfl, rfl, rfl, rfl, rfl, rfl, rfl⟩
  obtain ⟨-, hscanner, hdelivered⟩ := hsession.deliver hn n false (r.scanner settings (.file content))
  have hscanner : ({ r with header := h' }.runUpTo settings sink content n).2.1 =
      (r.runUpTo settings sink content n).2.1 := hscanner
  rw [cancelledAfter, cancelledAfter]
  simp only [hscanner]
  have hemitted : ({ r with header := h' }.runUpTo settings sink content n).2.2.emitted =
      (r.runUpTo settings sink content n).2.2.emitted := hdelivered.emitted
  rw [hemitted]
  exact hdelivered.close _ _

/-! ## Readers, however they were obtained -/

theorem cancelledAfter_later (settings : ReadSettings) (k : Nat) (r : Reader) (sink : Sink)
    (content : Bytes) (n : Nat) :
    (r.later k).cancelledAfter settings sink content n =
      (r.cancelledAfter settings sink content n).later k := by
  have hrun : (r.later k).runUpTo settings sink content n =
      ((r.runUpTo settings sink content n).1, (r.runUpTo settings sink content n).2.1,
        (r.runUpTo settings sink content n).2.2.later k) :=
    Session.deliver_later settings k n false _ (r.session settings sink content.length)
  rw [cancelledAfter, cancelledAfter, hrun]
  rfl

theorem entering_keeps (settings : ReadSettings) (r : Reader) (content : Bytes) :
    r.Keeps (r.entering settings content) := by
  unfold entering
  split
  · exact restart_keeps settings r _
  · exact .refl r

theorem Leaves.keeps {sink : Sink} {reading : Reading} (h : r.Leaves settings fs sink reading) :
    r.Keeps reading.reader := by
  cases h with
  | ended => exact read_keeps settings fs r sink _
  | @cancelled first content n framed _ hfirst _ _ =>
    have hscans := Session.deliver_scans settings n false (first.scanner settings (.file content))
      (first.session settings sink content.length)
    rw [hfirst] at hscans ⊢
    have hkeeps : Keeps (r.entering settings content)
        ((r.entering settings content).cancelledAfter settings sink content n).reader :=
      ⟨hscans.path, hscans.generation, hscans.fileAttributes⟩
    exact (entering_keeps settings r content).trans hkeeps

/-- A reader that was obtained in one of the ways there are: it was made for a file, rebuilt from some
checkpoint, or bound to a path where another one went on, was found in later polls, and has read any number
of times. -/
inductive Obtained (settings : ReadSettings) : Reader → Prop
  | made (fs : FileSystem) (path : String) (fingerprint : Fingerprint) (offset : Nat) :
      Obtained settings (.new settings fs path fingerprint offset)
  | rebuilt (fs : FileSystem) (c : Checkpoint) : Obtained settings (.ofCheckpoint settings fs c)
  | bound (fs : FileSystem) (path : String) (fingerprint : Fingerprint) {previous : Reader} :
      Obtained settings previous → Obtained settings (.inherit settings fs path fingerprint previous)
  | found (generation : Nat) {r : Reader} : Obtained settings r →
      Obtained settings { r with generation }
  | read {r : Reader} {fs : FileSystem} {sink : Sink} {reading : Reading} : Obtained settings r →
      r.Leaves settings fs sink reading → Obtained settings reading.reader

/-- Where no links are to be followed, a reader has the attributes of its path. -/
theorem Obtained.fileAttributes (h : Obtained settings r)
    (hname : settings.fileAttributes.nameResolved = false)
    (hpath : settings.fileAttributes.pathResolved = false) (fs : FileSystem) :
    r.fileAttributes = settings.fileAttributes.attributes fs r.path := by
  induction h with
  | made | rebuilt | bound => exact FileAttributeChoice.attributes_eq hname hpath _ _ _
  | found _ _ ih => exact ih
  | read _ hleaves ih =>
    rw [hleaves.keeps.fileAttributes, hleaves.keeps.path]
    exact ih

/-! ## Truncated files -/

/-- A reading does what that of a new reader does, but for the attributes of a header that the reader
knows from elsewhere. It does just the same if a header is looked for, or the reader knows none. -/
structure ReadsAnew (settings : ReadSettings) (r : Reader) (anew reading : Reading) : Prop where
  outcome : reading.outcome = anew.outcome
  bodies : reading.sink.accepted.map (·.body) = anew.sink.accepted.map (·.body)
  fingerprint : reading.reader.fingerprint = anew.reader.fingerprint
  offset : reading.reader.offset = anew.reader.offset
  lastSeenSize : reading.reader.lastSeenSize = anew.reader.lastSeenSize
  alike_iff : reading = anew.later r.generation ↔
    settings.header.isSome ∨ r.header = .done .empty

/-- A truncated file is read by a new reader, but for the header where none is looked for. -/
theorem entering_of_truncated (hfile : r.fileAttributes = settings.fileAttributes.attributes fs r.path)
    (hl : content.length < r.offset) :
    r.entering settings content =
      { new settings fs r.path (.ofContent settings.fingerprintSize content) 0 with
        header := if settings.header.isSome then .reading .empty else r.header }.later
          r.generation := by
  rw [entering, if_pos hl]
  obtain ⟨path, fingerprint, offset, lastSeenSize, generation, header, fileAttributes⟩ := r
  obtain rfl : fileAttributes = settings.fileAttributes.attributes fs path := hfile
  simp only [later, new, build, Nat.zero_add]
  rfl

/-- Whatever is done with a file that does not depend on the number of the poll, and without a header
rule not on the header either. -/
theorem readsAnew_of_truncated
    (hfile : r.fileAttributes = settings.fileAttributes.attributes fs r.path)
    (hl : content.length < r.offset) {perform : Reader → Reading}
    (hlater : ∀ n r, perform (r.later n) = (perform r).later n)
    (htwin : settings.header = none → ∀ (r : Reader) (h' : HeaderState),
      Reading.Twin r.header h' (perform r) (perform { r with header := h' })) :
    ReadsAnew settings r
      (perform (new settings fs r.path (.ofContent settings.fingerprintSize content) 0))
      (perform (r.entering settings content)) := by
  generalize hfresh : new settings fs r.path (.ofContent settings.fingerprintSize content) 0 = fresh
  have hinitial : fresh.header = .initial settings := by
    rw [← hfresh]
    rfl
  rw [entering_of_truncated hfile hl, hfresh, hlater]
  cases hr : settings.header with
  | some rule =>
    have hsame : { fresh with header := .reading .empty } = fresh := by
      rw [HeaderState.initial, hr] at hinitial
      exact congrArg (fun header => { fresh with header }) hinitial.symm
    rw [Option.isSome_some, if_pos rfl, hsame]
    exact ⟨rfl, rfl, rfl, rfl, rfl, iff_of_true rfl (.inl (hr ▸ rfl))⟩
  | none =>
    rw [HeaderState.initial, hr] at hinitial
    have ht := htwin hr fresh r.header
    rw [Option.isSome_none, if_neg Bool.false_ne_true]
    generalize hkept : perform { fresh with header := r.header } = kept at ht
    have hreader := ht.reader
    refine ⟨ht.outcome, ht.sink.bodies, ?_, ?_, ?_, fun halike => .inr ?_, fun hnone => ?_⟩
    · rw [Reading.later, hreader]
      rfl
    · rw [Reading.later, hreader]
      rfl
    · rw [Reading.later, hreader]
      rfl
    · -- the reading keeps the header, so that it is the header of the new reader
      have hkept : kept.reader.header = r.header := by rw [hreader]
      have hanew : (perform fresh).reader.header = .done .empty := ht.header.trans hinitial
      rw [← hkept, ← hanew]
      exact congrArg (fun reading => reading.reader.header) halike
    · have hheader : r.header = fresh.header := by
        rw [hr] at hnone
        exact (hnone.resolve_left Bool.false_ne_true).trans hinitial.symm
      rw [← hkept, hheader]

/-- **A truncated file is read as a new one**, but for the attributes of a header that the reader knows
where none is looked for. Whether a reading goes to its end, with whatever sink, or is cancelled in front
of some item, it does what that of a new reader does, and it leaves the same reader just if a header is
looked for or the reader knows no attributes of one. -/
theorem Obtained.readsAnew_of_shorter (h : Obtained settings r)
    (hname : settings.fileAttributes.nameResolved = false)
    (hpath : settings.fileAttributes.pathResolved = false)
    (ho : fs.openPath r.path = .ok (.file content)) (hl : content.length < r.offset) (sink : Sink) :
    let fresh := new settings fs r.path (.ofContent settings.fingerprintSize content) 0
    ReadsAnew settings r (fresh.readToEnd settings fs sink) (r.readToEnd settings fs sink) ∧
      ∀ n, ReadsAnew settings r (fresh.cancelledAfter settings sink content n)
        ((r.entering settings content).cancelledAfter settings sink content n) := by
  intro fresh
  have hfile := h.fileAttributes hname hpath fs
  have hfresh : fresh.entering settings content = fresh := entering_of_le settings (Nat.zero_le _)
  constructor
  · rw [readToEnd_of_openPath ho, readToEnd_of_openPath (r := fresh) ho, hfresh]
    exact readsAnew_of_truncated hfile hl
      (fun n r => readOpened_later settings n r sink (.file content) settings.deleteAfterRead)
      (fun hn r h' => twin_readOpened hn r h' sink content settings.deleteAfterRead)
  · intro n
    exact readsAnew_of_truncated hfile hl
      (fun k r => cancelledAfter_later settings k r sink content n)
      (fun hn r h' => twin_cancelledAfter hn r h' sink content n)

/-- What was stored of a file with ten bytes and the header line `k=v`. -/
def headedCheckpoint : Checkpoint where
  path := "a.log"
  fingerprint := .ofContent 1000 [0x6B, 0x3D, 0x76, 0x0A, 0x61, 0x0A, 0x62, 0x0A, 0x63, 0x0A]
  offset := 10
  lastSeenSize := 10
  header := some (.ofList [("k", "v")])

/-- The header is looked for: the reader takes up the header line `k=v` of the new file. -/
theorem readsAnew_of_shorter_headed :
    let fs := oneFile headed
    let r := ofCheckpoint headedLines fs { headedCheckpoint with header := some (.ofList [("k", "w")]) }
    let fresh := new headedLines fs "a.log" (.ofContent 1000 headed) 0
    Obtained headedLines r ∧ headedLines.fileAttributes.nameResolved = false ∧
      headedLines.fileAttributes.pathResolved = false ∧
      fs.openPath "a.log" = .ok (.file headed) ∧ headed.length < r.offset ∧
      r.readToEnd headedLines fs .healthy = (fresh.readToEnd headedLines fs .healthy).later 0 ∧
      (r.readToEnd headedLines fs .healthy).sink.accepted =
        [⟨.text "x", .ofList [("file_name", "a.log"), ("k", "v")]⟩] := by
  intro fs r fresh
  have hr : Obtained headedLines r := .rebuilt fs _
  have ho : fs.openPath "a.log" = .ok (.file headed) :=
    FileSystem.openPath_name FileSystem.isName_logs.1 rfl rfl
  have hl : headed.length < r.offset := by decide
  obtain ⟨hreads, -⟩ := hr.readsAnew_of_shorter rfl rfl ho hl .healthy
  have halike := hreads.alike_iff.mpr (.inl rfl)
  refine ⟨hr, rfl, rfl, ho, hl, halike, ?_⟩
  rw [readToEnd_of_openPath (r := r) ho]
  decide +kernel

/-- No header is looked for, and the reader has attributes of one from its checkpoint: the event of the
new file has them, which it would not have from a new reader. -/
theorem keeps_header_of_longer :
    let fs := oneFile [0x78, 0x0A]
    let r := ofCheckpoint fourByteLines fs headedCheckpoint
    let fresh := new fourByteLines fs "a.log" (.ofContent 1000 [0x78, 0x0A]) 0
    Obtained fourByteLines r ∧ fs.openPath "a.log" = .ok (.file [0x78, 0x0A]) ∧ 2 < r.offset ∧
      (r.readToEnd fourByteLines fs .healthy).sink.accepted =
        [⟨.text "x", .ofList [("file_name", "a.log"), ("k", "v")]⟩] ∧
      (fresh.readToEnd fourByteLines fs .healthy).sink.accepted =
        [⟨.text "x", .ofList [("file_name", "a.log")]⟩] ∧
      (r.readToEnd fourByteLines fs .healthy).reader.header.attributes? =
        some (.ofList [("k", "v")]) ∧
      (fresh.readToEnd fourByteLines fs .healthy).reader.header.attributes? = some .empty := by
  intro fs r fresh
  have ho : fs.openPath "a.log" = .ok (.file [0x78, 0x0A]) :=
    FileSystem.openPath_name FileSystem.isName_logs.1 rfl rfl
  rw [readToEnd_of_openPath (r := r) ho, readToEnd_of_openPath (r := fresh) ho]
  refine ⟨.rebuilt fs _, ho, by decide, ?_, ?_, ?_, ?_⟩ <;> decide +kernel

end Reader

end LogFollow
