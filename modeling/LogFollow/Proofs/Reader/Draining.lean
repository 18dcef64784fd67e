import LogFollow.Proofs.Reader.Completion
import LogFollow.Proofs.Reader.Rebuilt
import LogFollow.Proofs.Scanner.Progress

/-!
# Readings of a file that no longer changes

Each reading of a file comes to its end by itself: a scanner moves on with each item that it finds, so the
fuel that bounds their number is never used up. A reading that finds an item moves the reader on. One that
finds none, of a file that has not grown, delivers all the rest at once. So a file that no longer changes
is drained by as many readings as it has bytes, and one more; and readings of a drained file do nothing.
All this asks of the sizes only that the buffer of a scanner has room at all. Where its capacity has
wrapped to nothing, a scanner turns for ever, and so does a reading.
-/
namespace LogFollow

/-! ## The items of a scanner -/

namespace Scanner

variable {rule : Framing} {m place : Nat} {source : Source} {s : Scanner}

/-- A call for an item returns this, after finitely many steps. -/
def Gets (s : Scanner) (r : ScanResult × Scanner) : Prop := ∃ phase u, Within s phase u ∧ Ends phase u r

/-- The items of a source without failures come to an end. Each moves the scanner on by a byte at least. -/
theorem Held.exists_drains (hr : rule.Lawful) (h : Held rule m source place s)
    (hf : s.source.failures = []) :
    ∃ items t, Drains s items [] t ∧ Held rule m source place t ∧
      s.position + items.length ≤ Lines.stop s.position items ∧
      Lines.stop s.position items ≤ t.position := by
  generalize hn : (fileOf source place).length - s.position = n
  induction n using Nat.strong_induction_on generalizing s with
  | _ n ih =>
    obtain ⟨hwhole, hnone⟩ := h.next_of_whole hf
    cases hnext : s.next with
    | mk result t =>
      have hheld : Held rule m source place t := by simpa only [hnext] using h.next
      have hle : s.position ≤ t.position := by simpa only [hnext] using h.inFile.next.le
      rw [hnext] at hwhole hnone
      cases result with
      | exhausted => exact ⟨[], t, .exhausted hnext, hheld, Nat.le_refl _, hle⟩
      | failed cause => exact absurd rfl (hnone cause)
      | found item =>
        have hlt := h.position_lt_next hr hnext
        have hfile := hheld.inFile.le
        obtain ⟨items, u, hdrains, hu, hstop, hrest⟩ := ih _ (by omega) hheld hwhole rfl
        refine ⟨(item, t.position) :: items, u, .found hnext hdrains, hu, ?_, hrest⟩
        rw [List.length_cons, Lines.stop]
        omega

end Scanner

/-! ## Runs that end by themselves -/

namespace Session

/-- The run over what a scanner finds ends so, after finitely many calls. -/
inductive Delivers (settings : ReadSettings) :
    Bool → Scanner → Session → Ending × Scanner × Session → Prop
  | stopped {framed : Bool} {scanner : Scanner} {s : Session} : s.sink.look.1 = true →
      Delivers settings framed scanner s (.stopped, scanner, s.looked)
  | exhausted {framed : Bool} {scanner t : Scanner} {s : Session} : s.sink.look.1 = false →
      scanner.Gets (.exhausted, t) →
      Delivers settings framed scanner s (.exhausted framed, t, s.looked)
  | failed {framed : Bool} {scanner t : Scanner} {s : Session} {cause : IoError} :
      s.sink.look.1 = false → scanner.Gets (.failed cause, t) →
      Delivers settings framed scanner s (.failed (.io cause), t, s.looked)
  | dropped {framed : Bool} {scanner t : Scanner} {s : Session} {size : Nat}
      {r : Ending × Scanner × Session} : s.sink.look.1 = false →
      scanner.Gets (.found (.oversized size), t) →
      Delivers settings true t (s.looked.advance t.position) r →
      Delivers settings framed scanner s r
  | rejected {framed : Bool} {scanner t : Scanner} {s s' : Session} {token : Bytes} {e : Error} :
      s.sink.look.1 = false → scanner.Gets (.found (.token token), t) →
      s.looked.emit settings token = (.error e, s') →
      Delivers settings framed scanner s (.failed e, t, s')
  | passed {framed : Bool} {scanner t : Scanner} {s s' : Session} {token : Bytes}
      {r : Ending × Scanner × Session} : s.sink.look.1 = false →
      scanner.Gets (.found (.token token), t) → s.looked.emit settings token = (.ok (), s') →
      Delivers settings true t (s'.advance t.position) r → Delivers settings framed scanner s r

variable {rule : Framing} {m place : Nat} {source : Source} {scanner : Scanner}

/-- A willing sink lets all be consumed that forms no token. -/
theorem offset_deliverRest_of_willing {settings : ReadSettings} {s : Session}
    (hd : s.decoder.encoding = settings.encoding) (hw : s.sink.Willing) (scanner : Scanner) :
    (s.deliverRest settings scanner).2.2.reader.offset =
      if scanner.takeRemaining.1 = none then s.reader.offset
      else scanner.takeRemaining.2.position := by
  cases htaken : scanner.takeRemaining with
  | mk taken t =>
    unfold deliverRest
    rw [htaken]
    cases taken with
    | none => rfl
    | some rest =>
      simp only
      split
      · rfl
      · have he := emits hd rest
        generalize s.emit settings rest = result at he ⊢
        cases he with
        | passed _ => rfl
        | rejected e ha hstops => exact absurd hstops (ha.not_stops hw)

end Session

/-! ## Readings -/

/-- The rule keeps to its law, and the buffer of a scanner has room for a byte at least. -/
structure ReadSettings.Readable (settings : ReadSettings) : Prop where
  lawful : settings.framing.Lawful
  room : 0 < Scanner.capacityOf settings.framing settings.maxLogSize

namespace Reader

open Scanner (capacityOf)
open Session (Ending Delivers)

variable {settings : ReadSettings} {r : Reader} {content : Bytes} {sink : Sink}

/-- How a reading of a file comes to its end, from the offset on. -/
inductive Reads (settings : ReadSettings) (content : Bytes) (flush : Bool) (r : Reader)
    (sink : Sink) : Reading → Prop
  | idle : content.length = r.offset ∧ content.length = r.lastSeenSize →
      Reads settings content flush r sink ⟨.ok ⟨0, true⟩, r, sink⟩
  | ran {ending : Ending} {scanner : Scanner} {s : Session} :
      ¬ (content.length = r.offset ∧ content.length = r.lastSeenSize) →
      Delivers settings false (r.scanner settings (.file content))
        (r.session settings sink content.length) (ending, scanner, s) →
      Reads settings content flush r sink
        (conclude settings content.length
          (fun framed => flush || (!framed && content.length == r.lastSeenSize)) scanner (ending, s))

/-- A reading has changed nothing of a reader, and says that it has come to the end. At most it has looked
whether to stop. -/
structure Rests (r : Reader) (sink : Sink) (reading : Reading) : Prop where
  outcome : reading.outcome = .ok ⟨0, true⟩
  sink : ∃ looks, reading.sink = { sink with looks }
  offset : reading.reader.offset = r.offset
  header : reading.reader.header = r.header

/-- What a reading does of a file that has this content: it goes on, by a byte at least if the file has
not grown, and rests at the end. -/
structure Advances (r : Reader) (content : Bytes) (sink : Sink) (reading : Reading) : Prop where
  le : r.offset ≤ reading.reader.offset
  inFile : reading.reader.offset ≤ content.length
  quiet : r.lastSeenSize = content.length → r.offset < content.length →
    r.offset < reading.reader.offset
  rests : r.offset = content.length → r.Rests sink reading

/-- The scanner of a file stands in it. -/
theorem held_scanner (hs : settings.Readable) (r : Reader) (content : Bytes) :
    Scanner.Held settings.framing settings.maxLogSize (r.source settings (.file content)) r.offset
      (r.scanner settings (.file content)) :=
  Scanner.held_new hs.lawful.cutsFront hs.room _ _

theorem length_fileOf (settings : ReadSettings) (hl : r.offset ≤ content.length) :
    (Scanner.fileOf (r.source settings (.file content)) r.offset).length = content.length := by
  rw [Scanner.fileOf, stream_source, List.length_append, List.length_replicate, List.length_drop]
  omega

/-- Where nothing is left, a reading whose run has come to its end says whether all was consumed. -/
theorem conclude_of_nothing_left (settings : ReadSettings) {scanner : Scanner}
    (h : scanner.takeRemaining.1 = none) (size : Nat) (closing : Bool → Bool) (framed : Bool)
    (s : Session) :
    ∃ u, conclude settings size closing scanner (.exhausted framed, s) =
      s.close u (.ok ⟨s.emitted, s.reader.offset == size⟩) := by
  rw [conclude]
  split
  · rw [Session.deliverRest_of_none h]
    exact ⟨_, rfl⟩
  · exact ⟨_, rfl⟩

/-- Where the run has come to its end, all is consumed that the reading still delivers. -/
theorem offset_conclude {t : Scanner} {s : Session}
    (hd : s.decoder.encoding = settings.encoding) (hw : s.sink.Willing) (size : Nat)
    (closing : Bool → Bool) (framed : Bool) :
    (conclude settings size closing t (.exhausted framed, s)).reader.offset =
      if closing framed = false ∨ t.takeRemaining.1 = none then s.reader.offset
      else t.takeRemaining.2.position := by
  rw [conclude]
  cases hc : closing framed with
  | false => rfl
  | true =>
    have hoffset := Session.offset_deliverRest_of_willing hd hw t
    simp only [if_true, Bool.true_eq_false, false_or]
    rw [← hoffset]
    generalize s.deliverRest settings t = delivered
    obtain ⟨_ | _, u, v⟩ := delivered <;> rfl

/-- What the scanner of a file gives from the offset on. Each item has a byte at least, and where there is
none, all that stands behind the offset is left. -/
structure Gives (settings : ReadSettings) (r : Reader) (content : Bytes)
    (items : List (Scanned × Nat)) (t : Scanner) : Prop where
  drains : Scanner.Drains (r.scanner settings (.file content)) items [] t
  counted : r.offset + items.length ≤ Lines.stop r.offset items
  behind : Lines.stop r.offset items ≤ t.takeRemaining.2.position
  inFile : t.takeRemaining.2.position ≤ content.length
  left : items = [] → t.takeRemaining.1 =
    (if content.drop r.offset = [] then none else some (content.drop r.offset))
  place : items = [] → t.takeRemaining.2.position = content.length

theorem exists_gives (hs : settings.Readable) (hl : r.offset ≤ content.length) :
    ∃ items t, Gives settings r content items t := by
  have hnew := held_scanner hs r content
  have hpending : (r.scanner settings (.file content)).pending = content.drop r.offset :=
    stream_source settings r content
  obtain ⟨items, t, hdrains, ht, hcounted, hbehind⟩ := hnew.exists_drains hs.lawful rfl
  have hrest := ht.inFile.takeRemaining
  have hend := hrest.inFile.le
  rw [length_fileOf settings hl] at hend
  refine ⟨items, t, hdrains, hcounted, Nat.le_trans hbehind hrest.le, hend, ?_, ?_⟩
  · rintro rfl
    cases hdrains with
    | exhausted hnext =>
      rw [(hnew.takeRemaining_of_exhausted rfl hnext).1, hpending]
  · rintro rfl
    cases hdrains with
    | exhausted hnext =>
      rw [(hnew.takeRemaining_of_exhausted rfl hnext).2, hpending, List.length_drop]
      exact Nat.add_sub_cancel' hl

/-- With a willing sink a reading runs over all that the scanner gives. -/
theorem Gives.readOpened {items : List (Scanned × Nat)} {t : Scanner}
    (h : Gives settings r content items t) (hw : sink.Willing) (flush : Bool)
    (hi : ¬ (content.length = r.offset ∧ content.length = r.lastSeenSize)) :
    ∃ s, s.decoder.encoding = settings.encoding ∧ s.sink.Willing ∧
      s.reader.offset = Lines.stop r.offset items ∧
      (items = [] → s = (r.session settings sink content.length).looked) ∧
      r.readOpened settings sink (.file content) flush =
        conclude settings content.length
          (fun framed => flush || (!framed && content.length == r.lastSeenSize)) t
          (.exhausted (!items.isEmpty), s) := by
  have hlen := h.counted
  have hbehind := h.behind
  have hin := h.inFile
  obtain ⟨u, hu, -, hread⟩ := readOpened_drains h.drains (by omega) sink flush hi
  have hruns : Session.Runs settings false items (r.session settings sink content.length) _ :=
    Session.runs false items rfl
  have hexhausted := hruns.willing hw
  obtain ⟨done, rest, hitems, hpasses, -, hall⟩ := hruns.passes
  obtain rfl := hall _ hexhausted
  obtain rfl : items = done := hitems.trans (List.append_nil done)
  rw [hu _ hexhausted] at hread
  refine ⟨_, hpasses.decoder, hpasses.willing hw, congrArg Reader.offset hpasses.reader, ?_, ?_⟩
  · rintro rfl
    have hgoes : (r.session settings sink content.length).sink.look.1 ≠ true := by
      change sink.look.1 ≠ true
      rw [hw.toGoes.look]
      exact Bool.false_ne_true
    rw [Session.run, if_neg hgoes]
  · rw [hread]
    exact congrArg _ (Prod.ext hexhausted rfl)

/-- **A reading moves the reader on.** -/
theorem advances_readOpened (hs : settings.Readable) (hl : r.offset ≤ content.length)
    (hw : sink.Willing) (flush : Bool) :
    Advances r content sink (r.readOpened settings sink (.file content) flush) := by
  by_cases hidle : content.length = r.offset ∧ content.length = r.lastSeenSize
  · have hread : r.readOpened settings sink (.file content) flush = ⟨.ok ⟨0, true⟩, r, sink⟩ :=
      if_pos hidle
    rw [hread]
    exact ⟨Nat.le_refl _, hl, fun _ hlt => absurd hidle.1 (Nat.ne_of_gt hlt),
      fun _ => ⟨rfl, ⟨_, rfl⟩, rfl, rfl⟩⟩
  · obtain ⟨items, t, hgives⟩ := exists_gives hs hl
    have hcounted := hgives.counted
    have hbehind := hgives.behind
    have hin := hgives.inFile
    obtain ⟨s, hdecoder, hwilling, hplace, hsame, hread⟩ := hgives.readOpened hw flush hidle
    have hoffset := offset_conclude (t := t) hdecoder hwilling content.length
      (fun framed => flush || (!framed && content.length == r.lastSeenSize)) (!items.isEmpty)
    rw [← hread, hplace] at hoffset
    refine ⟨?_, ?_, fun hquiet hlt => ?_, fun hdone => ?_⟩
    · rw [hoffset]
      split <;> omega
    · rw [hoffset]
      split <;> omega
    · cases items with
      | cons item rest =>
        rw [List.length_cons] at hcounted
        rw [hoffset]
        split <;> omega
      | nil =>
        -- the file has not grown, so the reading delivers what is left
        have hleft : t.takeRemaining.1 ≠ none := by
          rw [hgives.left rfl, if_neg (by simpa using hlt)]
          exact Option.some_ne_none _
        have hcloses : (flush || (!(!([] : List (Scanned × Nat)).isEmpty) &&
            content.length == r.lastSeenSize)) ≠ false := by simp [hquiet]
        rw [hoffset, if_neg (not_or.mpr ⟨hcloses, hleft⟩), hgives.place rfl]
        exact hlt
    · have hnil : items = [] := List.length_eq_zero_iff.mp (by omega)
      obtain rfl := hsame hnil
      have hleft : t.takeRemaining.1 = none := by
        rw [hgives.left hnil, if_pos (by simp [hdone])]
      obtain ⟨u, hclose⟩ := conclude_of_nothing_left settings hleft content.length
        (fun framed => flush || (!framed && content.length == r.lastSeenSize)) (!items.isEmpty)
        (r.session settings sink content.length).looked
      rw [hread, hclose]
      refine ⟨?_, ⟨sink.looks + 1, congrArg Prod.snd hw.toGoes.look⟩, rfl, rfl⟩
      change Except.ok (ReadOutcome.mk 0 (r.offset == content.length)) = _
      rw [beq_iff_eq.mpr hdone]

/-! ## Readings one after another -/

theorem offset_entering_le (settings : ReadSettings) (r : Reader) (content : Bytes) :
    (r.entering settings content).offset ≤ content.length := by
  unfold entering
  split
  · exact Nat.zero_le _
  · next hl => exact Nat.not_lt.mp hl

/-- A reading of the file leaves a reader that stands in it and knows its size. Unless it stands at the end,
it has gone on, if the other one stood and knew so. -/
structure Nears (content : Bytes) (r r' : Reader) : Prop where
  inFile : r'.offset ≤ content.length
  lastSeenSize : r'.lastSeenSize = content.length
  path : r'.path = r.path
  nears : r.offset ≤ content.length → r.lastSeenSize = content.length →
    r'.offset = content.length ∨ r.offset < r'.offset
  rests : r.offset = content.length → r'.offset = content.length ∧ r'.header = r.header

variable {fs : FileSystem}

theorem advances_readToEnd (hs : settings.Readable)
    (ho : fs.openPath r.path = .ok (.file content)) (hw : sink.Willing) :
    Advances (r.entering settings content) content sink (r.readToEnd settings fs sink) := by
  rw [readToEnd_of_openPath ho]
  exact advances_readOpened hs (offset_entering_le settings r content) hw _

theorem nears_readToEnd (hs : settings.Readable)
    (ho : fs.openPath r.path = .ok (.file content)) (hw : sink.Willing) :
    Nears content r (r.readToEnd settings fs sink).reader := by
  have hadvances := advances_readToEnd hs ho hw
  refine ⟨hadvances.inFile, ?_, (read_keeps settings fs r sink _).path, fun hle hsize => ?_,
    fun hend => ?_⟩
  · rw [readToEnd_of_openPath ho]
    exact (readOpened_scans settings (r.entering settings content) sink (.file content) _).lastSeenSize
  · rw [entering_of_le settings hle] at hadvances
    by_cases hlt : r.offset < content.length
    · exact .inr (hadvances.quiet hsize hlt)
    · have hback := hadvances.le
      have hin := hadvances.inFile
      exact .inl (by omega)
  · rw [entering_of_le settings (Nat.le_of_eq hend)] at hadvances
    have hrests := hadvances.rests hend
    exact ⟨hrests.offset.trans hend, hrests.header⟩

/-- Calls that read the file at a path while it has this content, each with a willing sink. -/
def Undisturbed (path : String) (content : Bytes) (calls : List (FileSystem × Sink)) : Prop :=
  ∀ call ∈ calls, call.1.openPath path = .ok (.file content) ∧ call.2.Willing

/-- After the first of such calls a reader is left that is nearer to the end. -/
theorem Undisturbed.first (hs : settings.Readable)
    {call : FileSystem × Sink} {calls : List (FileSystem × Sink)}
    (h : Undisturbed r.path content (call :: calls)) :
    ∃ r', (readEach settings r (call :: calls)).1 = (readEach settings r' calls).1 ∧
      Nears content r r' ∧ Undisturbed r'.path content calls := by
  obtain ⟨⟨hopen, hw⟩, hrest⟩ := List.forall_mem_cons.mp h
  have hwilling : Sink.Willing { call.2 with accepted := [] } := ⟨hw.accepts, hw.goes, hw.uninterrupted⟩
  have hnears := nears_readToEnd hs hopen hwilling
  exact ⟨_, rfl, hnears, hnears.path ▸ hrest⟩

end Reader

end LogFollow
