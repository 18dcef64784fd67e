import LogFollow.Proofs.Reader.Faults
import LogFollow.Proofs.Reader.Frame

/-!
# Readers that are rebuilt within a header

The checkpoint of a reader whose header has not ended says that nothing of the file was read. The reader
that is rebuilt from it collects again what the other one holds: the lines so far are header lines, which
make no events, and the header behind them is the same in both. So the two read on alike, wherever the
file has been left, whatever is appended to it, and however often a reading was cancelled in between.
Both have the same path, which is a text; that of a file whose name is no text would not be stored whole.
-/
namespace LogFollow

/-! ## Headers that have not ended -/

namespace HeaderState

variable {settings : ReadSettings} {file : Attributes} {h : HeaderState} {tokens : List Bytes}

/-- A header that has not ended behind some tokens had not ended in front of them. -/
theorem unended_of_past (hn : (h.past settings tokens).attributes? = none) : h.attributes? = none := by
  cases h with
  | reading found => rfl
  | done attributes =>
    rw [past_of_fixed (meet_done attributes)] at hn
    exact hn

/-- A header that has not ended behind some tokens has taken all of them for its lines. -/
theorem events_of_unended (hr : settings.header.isSome)
    (hn : (h.past settings tokens).attributes? = none) : h.events settings file tokens = [] := by
  obtain ⟨rule, hrule⟩ := Option.isSome_iff_exists.mp hr
  induction tokens generalizing h with
  | nil => rfl
  | cons token rest ih =>
    have hpast : h.past settings (token :: rest) =
        (h.meet settings token).2.past settings rest := rfl
    rw [hpast] at hn
    cases h with
    | done attributes =>
      rw [meet_done] at hn
      cases unended_of_past hn
    | reading found =>
      rcases hm : (reading found).meet settings token with ⟨_ | _, h'⟩
      · rw [hm, (ended_of_reading hrule hm).2] at hn
        cases unended_of_past hn
      · rw [events_headerLine hm]
        rw [hm] at hn
        exact ih hn

/-- A header that awaits tokens and has not ended has met none of them. -/
theorem Awaits.eq_of_unended {left : List Bytes} {h' : HeaderState} (hr : settings.header.isSome)
    (ha : h.Awaits settings left h') (hn : h'.attributes? = none) : h' = h := by
  obtain ⟨rule, hrule⟩ := Option.isSome_iff_exists.mp hr
  cases ha with
  | same => rfl
  | ended _ hm =>
    cases h with
    | done attributes =>
      rw [meet_done] at hm
      cases hm
      rfl
    | reading found =>
      rw [(ended_of_reading hrule hm).2] at hn
      cases hn

end HeaderState

/-! ## Items of a file in two parts -/

namespace Lines

theorem items_nil (m place : Nat) : items m place [] = [] := by
  rw [items_of_notMem List.not_mem_nil, if_neg (by simp)]

theorem items_append {front : Bytes} (h : tail front = []) (m place : Nat) (back : Bytes) :
    items m place (front ++ back) =
      items m place front ++ items m (place + front.length) back := by
  induction front using induct generalizing place with
  | unended data hn =>
    rw [tail_of_notMem hn] at h
    subst h
    rw [items_nil]
    rfl
  | line l rest hl ih =>
    rw [tail_line hl] at h
    have hplace : place + (l ++ newline :: rest).length = place + l.length + 1 + rest.length := by
      rw [List.length_append, List.length_cons]
      omega
    rw [hplace, List.append_assoc, List.cons_append, items_line hl, items_line hl, ih h]
    rfl

theorem stop_append (place : Nat) (before after : List (Scanned × Nat)) :
    stop place (before ++ after) = stop (stop place before) after := by
  induction before generalizing place with
  | nil => rfl
  | cons item before ih => exact ih item.2

theorem texts_append (before after : List (Scanned × Nat)) :
    texts (before ++ after) = texts before ++ texts after := List.flatMap_append

/-- Behind the items of lines that fit stands what follows the lines. -/
theorem stop_items {m : Nat} {data : Bytes} (h : Tidy m data) (hended : tail data = [])
    (place : Nat) : stop place (items m place data) = place + data.length := by
  obtain ⟨front, back, rfl, hfront, -, hstop, -, hback⟩ := split_items h (List.append_nil _).symm
  have hn := hback rfl
  rw [(cut_append_of_ended hfront back).2, tail_of_notMem hn] at hended
  rw [hstop, hended, List.append_nil]

theorem Tidy.of_append {m : Nat} {front back : Bytes} (h : Tidy m (front ++ back))
    (hf : Lines.tail front = []) : Tidy m front := by
  refine ⟨fun line hl => h.lines line ?_, by rw [hf]; exact Nat.zero_le m⟩
  rw [(cut_append_of_ended hf back).1]
  exact List.mem_append_left _ hl

end Lines

/-! ## Readings that are cancelled at any time -/

namespace Session

variable {settings : ReadSettings} {scanner t : Scanner} {items : List (Scanned × Nat)} {s : Session}

/-- Delivering some of the items of a scanner passes a beginning of them. -/
theorem passes_deliver (h : Scanner.Drains scanner items [] t) (n : Nat) (framed : Bool)
    (hd : s.decoder.encoding = settings.encoding) :
    ∃ done rest, items = done ++ rest ∧
      Passes settings s (Lines.texts done) (Lines.texts rest) (Lines.stop s.reader.offset done)
        (deliver settings n framed scanner s).2.2 := by
  generalize hf : ([] : List IoError) = failures at h
  induction h generalizing n framed s with
  | exhausted hnext =>
    refine ⟨[], [], rfl, ?_⟩
    cases n with
    | zero => exact .refl settings s []
    | succ n =>
      rw [deliver, hnext]
      split <;> exact .looked settings s []
  | @found scanner t u item items failures hnext _ ih =>
    cases n with
    | zero => exact ⟨[], (item, t.position) :: items, rfl, .refl settings s _⟩
    | succ n =>
      have hlooked := Passes.looked settings s []
      rw [deliver, hnext]
      split
      · exact ⟨[], (item, t.position) :: items, rfl, hlooked.append_right _⟩
      · cases item with
        | oversized size =>
          have hpassed := hlooked.advance t.position
          obtain ⟨done, rest, rfl, hmore⟩ := ih n true (hpassed.decoder.trans hd) hf
          exact ⟨(.oversized size, t.position) :: done, rest, rfl, hpassed.cons hmore⟩
        | token token =>
          have he := emits (s := s.looked) hd token
          simp only
          generalize s.looked.emit settings token = emitted at he
          cases he with
          | passed ha =>
            have hpassed := (hlooked.trans ha).advance t.position
            obtain ⟨done, rest, rfl, hmore⟩ := ih n true (hpassed.decoder.trans hd) hf
            exact ⟨(.token token, t.position) :: done, rest, rfl, hpassed.cons hmore⟩
          | rejected e ha _ =>
            exact ⟨[], (.token token, t.position) :: items, rfl,
              (hlooked.trans ha).append_right (Lines.texts items)⟩
  | failed _ _ _ => cases hf

end Session

namespace Reader

variable {settings : ReadSettings} {r : Reader} {fs : FileSystem} {sink : Sink} {reading : Reading}
  {content : Bytes}

/-- The reader with which a reading of a file begins: a file that has become shorter than the offset is
read as a new one. -/
def entering (settings : ReadSettings) (r : Reader) (content : Bytes) : Reader :=
  if content.length < r.offset then (r.restart settings (.file content)).2 else r

theorem entering_of_le (settings : ReadSettings) (hl : r.offset ≤ content.length) :
    r.entering settings content = r := if_neg (Nat.not_lt.mpr hl)

theorem readToEnd_of_openPath (ho : fs.openPath r.path = .ok (.file content)) (sink : Sink) :
    r.readToEnd settings fs sink =
      (r.entering settings content).readOpened settings sink (.file content)
        settings.deleteAfterRead := by
  by_cases hl : r.offset ≤ content.length
  · rw [entering_of_le settings hl, readToEnd, read_of_openPath ho hl]
  · have hlt : content.length < r.offset := Nat.lt_of_not_le hl
    unfold readToEnd read
    rw [ho, entering, if_pos hlt]
    exact if_pos hlt

/-- How a run ends over the first items of a file, `n` at most. -/
def runUpTo (settings : ReadSettings) (r : Reader) (sink : Sink) (content : Bytes) (n : Nat) :
    Session.Ending × Scanner × Session :=
  Session.deliver settings n false (r.scanner settings (.file content))
    (r.session settings sink content.length)

/-- The reading that is cancelled there. -/
def cancelledAfter (settings : ReadSettings) (r : Reader) (sink : Sink) (content : Bytes) (n : Nat) :
    Reading :=
  let (_, scanner, s) := r.runUpTo settings sink content n
  s.close scanner (.ok ⟨s.emitted, false⟩)

/-- What a reading may leave. It comes to its end, or to where the sink stops it, unless it is cut off in
front of some item without a look at the sink. -/
inductive Leaves (settings : ReadSettings) (fs : FileSystem) (r : Reader) (sink : Sink) :
    Reading → Prop
  | ended : Leaves settings fs r sink (r.readToEnd settings fs sink)
  | cancelled {first : Reader} {content : Bytes} {n : Nat} {framed : Bool} :
      fs.openPath r.path = .ok (.file content) → first = r.entering settings content →
      ¬ (content.length = first.offset ∧ content.length = first.lastSeenSize) →
      (first.runUpTo settings sink content n).1 = .exhausted framed →
      Leaves settings fs r sink (first.cancelledAfter settings sink content n)

/-- A reader has gone on by the bytes `front` of what stood behind its offset. Only at the end of the file
it stands behind bytes that form no line. -/
structure GoesOn (settings : ReadSettings) (r : Reader) (content front back : Bytes) (r' : Reader) :
    Prop where
  split : content.drop r.offset = front ++ back
  ended : Lines.tail front = [] ∨ back = []
  header : (r.header.past settings (Lines.tokens front)).Awaits settings (Lines.tokens back) r'.header
  reader : r' =
    { r with
      offset := r.offset + front.length
      lastSeenSize := content.length
      header := r'.header
      fingerprint := r'.fingerprint }

/-- A reading of lines that fit which is cancelled goes on by those it has passed. -/
theorem goesOn_cancelledAfter (hp : settings.Lined)
    (htidy : Lines.Tidy settings.maxLogSize (content.drop r.offset)) (sink : Sink) (n : Nat) :
    ∃ front back, GoesOn settings r content front back
      (r.cancelledAfter settings sink content n).reader := by
  obtain ⟨t, hdrains, -⟩ := drains_file hp r content
  have hencoding : (r.session settings sink content.length).decoder.encoding = settings.encoding := rfl
  obtain ⟨done, rest, hitems, hpasses⟩ := Session.passes_deliver hdrains n false hencoding
  obtain ⟨front, back, hsplit, hended, htexts, hstop, hrest, -⟩ := Lines.split_items htidy hitems
  have hheader := (hpasses.append_right (Lines.text (.token (Lines.tail back)))).header
  rw [hrest, ← Lines.tokens_eq, htexts, ← Lines.tokens_of_ended hended] at hheader
  have hoffset : Lines.stop (r.session settings sink content.length).reader.offset done =
      r.offset + front.length := hstop
  have hreader := hpasses.reader
  rw [hoffset] at hreader
  exact ⟨front, back, hsplit, .inl hended, hheader, congrArg (fun reader : Reader =>
    { reader with
      fingerprint := (r.cancelledAfter settings sink content n).reader.fingerprint }) hreader⟩

/-- A reading of lines that fit goes on, also if it is cancelled. -/
theorem Leaves.goesOn (hp : settings.Lined) (h : Leaves settings fs r sink reading)
    (ho : fs.openPath r.path = .ok (.file content)) (hl : r.offset ≤ content.length)
    (htidy : Lines.Tidy settings.maxLogSize content) :
    ∃ front back, GoesOn settings r content front back reading.reader := by
  have hdrop := htidy.drop r.offset
  cases h with
  | ended =>
    obtain ⟨front, back, h⟩ := proceeds_of_tidy hp hdrop sink settings.deleteAfterRead
    rw [← read_of_openPath ho hl, ← readToEnd] at h
    exact ⟨front, back, h.split, h.ended, h.header, h.reader⟩
  | @cancelled first content' n framed ho' hfirst _ _ =>
    rw [ho] at ho'
    cases ho'
    rw [hfirst, entering_of_le settings hl]
    exact goesOn_cancelledAfter hp hdrop sink n

/-- A reading has passed all items of what stood behind the offset, and nothing else. -/
structure PassesAll (settings : ReadSettings) (r : Reader) (sink : Sink) (content : Bytes)
    (reading : Reading) : Prop where
  accepted : reading.sink.accepted = sink.accepted ++
    r.header.events settings r.fileAttributes (Lines.texts (r.itemsOf settings content))
  header : reading.reader.header =
    r.header.past settings (Lines.texts (r.itemsOf settings content))
  offset : reading.reader.offset = Lines.stop r.offset (r.itemsOf settings content)
  lastSeenSize : reading.reader.lastSeenSize = content.length
  fingerprint : r.fingerprint = .ofContent settings.fingerprintSize content →
    reading.reader.fingerprint = r.fingerprint
  willing : reading.sink.Willing

/-- Where the file ends with a newline, a willing sink gets all items, whatever their size. -/
theorem passesAll_readToEnd (hp : settings.Lined)
    (ho : fs.openPath r.path = .ok (.file content)) (hl : r.offset ≤ content.length)
    (hended : Lines.tail (content.drop r.offset) = []) (hw : sink.Willing) :
    PassesAll settings r sink content (r.readToEnd settings fs sink) := by
  rw [readToEnd, read_of_openPath ho hl]
  by_cases hi : content.length = r.offset ∧ content.length = r.lastSeenSize
  · have hidle : r.readOpened settings sink (.file content) settings.deleteAfterRead =
        ⟨.ok ⟨0, true⟩, r, sink⟩ := if_pos hi
    have hnone : r.itemsOf settings content = [] := by
      rw [itemsOf, List.drop_of_length_le (by omega), Lines.items_nil]
    rw [hidle]
    refine ⟨?_, ?_, ?_, hi.2.symm, fun _ => rfl, hw⟩
    · rw [hnone]
      exact (List.append_nil _).symm
    · rw [hnone]
      rfl
    · rw [hnone]
      rfl
  · obtain ⟨scanner, hfin, hprint, hread⟩ :=
      readOpened_file hp r sink content settings.deleteAfterRead hi
    have hruns := runs_ran settings r sink content
    obtain ⟨done, rest, hitems, hpasses, -, hall⟩ := hruns.passes
    -- a willing sink lets the run go to its end, and behind the last newline nothing is left
    have hexhausted := hruns.willing hw
    obtain rfl := hall _ hexhausted
    rw [List.append_nil] at hitems
    have hnone (f : Bool) (hf : (r.ran settings sink content).1 = .exhausted f) :
        scanner.takeRemaining.1 = none := by
      rw [(hfin f hf).left, Lines.remainder, if_pos (.inl hended)]
    obtain ⟨u, outcome, hclose, hsource⟩ := conclude_of_none settings (r.ran settings sink content) hnone
      content.length (fun framed => settings.deleteAfterRead ||
        (!framed && content.length == r.lastSeenSize))
    rw [hread, hclose]
    rw [← hitems] at hpasses
    refine ⟨hpasses.accepted, hpasses.header.eq_of_nil, ?_, ?_, fun hcaptured => ?_, hpasses.willing hw⟩
    · exact congrArg Reader.offset hpasses.reader
    · exact congrArg Reader.lastSeenSize hpasses.reader
    · exact (congrArg Source.fingerprint hsource).trans (hprint hcaptured)

end Reader

/-! ## A growing file -/

/-- The path leads to the file at a place, which has this content. -/
structure FileSystem.LeadsTo (fs : FileSystem) (path place : String) (content : Bytes) : Prop where
  canonical : fs.canonical path = .ok place
  opens : fs.openPath path = .ok (.file content)

/-- A file in the home directory. -/
theorem FileSystem.canonical_name {fs : FileSystem} {name : String} {content : Bytes}
    (hn : IsName name) (hd : fs.node? fs.home = some .directory)
    (hf : fs.node? (fs.home ++ [name]) = some (.file content)) :
    fs.canonical name = .ok ("/" ++ "/".intercalate (fs.home ++ [name])) := by
  rw [canonical, resolve_name hn hd hf]
  rfl

namespace Reader

variable {settings : ReadSettings} {r : Reader} {fs : FileSystem} {sink : Sink} {reading : Reading}
  {path place : String} {content front back : Bytes}

/-- A reader was made at the beginning of the file at a place, and the file was read any number of times,
each time with whatever sink and perhaps cancelled. In between the file has grown. It ends with a newline
at each reading, and its lines fit; `content` is what it had at the last one. -/
inductive Watches (settings : ReadSettings) (path place : String) : Bytes → Reader → Prop
  | made {fs : FileSystem} (fingerprint : Fingerprint) : fs.canonical path = .ok place →
      Watches settings path place [] (.new settings fs path fingerprint 0)
  | read {content more : Bytes} {r : Reader} {fs : FileSystem} {sink : Sink} {reading : Reading} :
      Watches settings path place content r → fs.LeadsTo path place (content ++ more) →
      Lines.tail (content ++ more) = [] → Lines.Tidy settings.maxLogSize (content ++ more) →
      r.Leaves settings fs sink reading →
      Watches settings path place (content ++ more) reading.reader

/-- A reader stands behind the lines `front` of the file at a place. While it reads the header, these are
lines of it. -/
structure StandsBehind (settings : ReadSettings) (path place : String) (front : Bytes) (r : Reader) :
    Prop where
  ended : Lines.tail front = []
  tidy : Lines.Tidy settings.maxLogSize front
  offset : r.offset = front.length
  fileAttributes : ∀ fs : FileSystem, fs.canonical path = .ok place →
    r.fileAttributes = settings.fileAttributes.attributes fs path
  header : r.header.attributes? = none →
    r.header = (HeaderState.initial settings).past settings (Lines.tokens front)
  path : r.path = path

/-- A reader that goes on stands behind more lines. -/
theorem StandsBehind.goesOn (hr : settings.header.isSome)
    (h : r.StandsBehind settings path place front) {r' : Reader} {more left : Bytes}
    (hended : Lines.tail (front ++ back) = [])
    (htidy : Lines.Tidy settings.maxLogSize (front ++ back))
    (hg : GoesOn settings r (front ++ back) more left r') :
    front ++ back = (front ++ more) ++ left ∧
      r'.StandsBehind settings path place (front ++ more) := by
  have hback : back = more ++ left := by
    have hsplit := hg.split
    rwa [h.offset, List.drop_left] at hsplit
  have hsplit : front ++ back = (front ++ more) ++ left := by rw [hback, List.append_assoc]
  have hfront : Lines.tail (front ++ more) = [] := by
    rcases hg.ended with hmore | hleft
    · rw [(Lines.cut_append_of_ended h.ended more).2, hmore]
    · rwa [hsplit, hleft, List.append_nil] at hended
  rw [hsplit] at htidy
  refine ⟨hsplit, hfront, htidy.of_append hfront, ?_, ?_, fun hn => ?_, ?_⟩
  · have hplace : r'.offset = r.offset + more.length := congrArg Reader.offset hg.reader
    rw [hplace, h.offset, List.length_append]
  · rw [hg.reader]
    exact h.fileAttributes
  · have hheader := hg.header.eq_of_unended hr hn
    rw [hheader] at hn ⊢
    rw [Lines.tokens_append h.ended, HeaderState.past_append,
      ← h.header (HeaderState.unended_of_past hn)]
  · rw [hg.reader]
    exact h.path

theorem Watches.standsBehind (hp : settings.Lined) (hr : settings.header.isSome)
    (h : Watches settings path place content r) :
    ∃ front back, content = front ++ back ∧ r.StandsBehind settings path place front := by
  induction h with
  | made fingerprint hmade =>
    refine ⟨[], [], rfl, rfl, ⟨nofun, Nat.zero_le _⟩, rfl, fun fs hfs => ?_, fun _ => rfl, rfl⟩
    exact settings.fileAttributes.attributes_of_canonical (hmade.trans hfs.symm)
  | @read content more r fs sink reading _ hleads hended htidy hleaves ih =>
    obtain ⟨front, back, rfl, h⟩ := ih
    have hopen : fs.openPath r.path = .ok (.file (front ++ back ++ more)) := by
      rw [h.path]
      exact hleads.opens
    have hle : r.offset ≤ (front ++ back ++ more).length := by
      rw [h.offset, List.append_assoc, List.length_append]
      omega
    obtain ⟨front', back', hg⟩ := hleaves.goesOn hp hopen hle htidy
    rw [List.append_assoc] at hended htidy hg ⊢
    obtain ⟨hsplit, hlater⟩ := h.goesOn hr hended htidy hg
    exact ⟨front ++ front', back', hsplit, hlater⟩

/-- **A restart within a header loses nothing.** A reader that has read a growing file any number of times
and is still reading its header is rebuilt from its checkpoint: the other one stands at the beginning of
the file and knows nothing of the header. Whatever is then appended, up to a newline, one reading of
either of them delivers the same events, and leaves the same offset, size and header. -/
theorem Watches.rebuilt_reads_alike (hp : settings.Lined) (hr : settings.header.isSome)
    (h : Watches settings path place content r) (hreading : r.header.attributes? = none)
    {restarted : FileSystem} (hrestarted : restarted.canonical path = .ok place) :
    let rebuilt := ofCheckpoint settings restarted r.checkpoint
    rebuilt.offset = 0 ∧ rebuilt.header.attributes? = none ∧
      ∀ (more : Bytes) (fs : FileSystem) (sink : Sink), fs.LeadsTo path place (content ++ more) →
        Lines.tail (content ++ more) = [] → sink.Willing →
        let kept := r.readToEnd settings fs sink
        let again := rebuilt.readToEnd settings fs sink
        again.sink.accepted = kept.sink.accepted ∧ again.reader.offset = kept.reader.offset ∧
          again.reader.lastSeenSize = kept.reader.lastSeenSize ∧
          again.reader.header = kept.reader.header := by
  intro rebuilt
  obtain ⟨front, back, rfl, hstands⟩ := h.standsBehind hp hr
  obtain ⟨found, hfound⟩ : ∃ found, r.header = .reading found := by
    cases hh : r.header with
    | reading found => exact ⟨found, rfl⟩
    | done attributes =>
      rw [hh] at hreading
      cases hreading
  have hoffset : rebuilt.offset = 0 := by
    change r.checkpoint.offset = 0
    rw [checkpoint, hfound]
  have hheader : rebuilt.header = .initial settings := by
    change (ofCheckpoint settings restarted r.checkpoint).header = _
    rw [ofCheckpoint, checkpoint, hreading]
    rfl
  have hfile : rebuilt.fileAttributes = r.fileAttributes := by
    rw [hstands.fileAttributes restarted hrestarted, ← hstands.path]
    rfl
  -- The lines so far are those of the header, so the rebuilt reader passes them without an event.
  have hkept := hstands.header hreading
  have hlines := hkept ▸ hreading
  have hnone : (HeaderState.initial settings).events settings r.fileAttributes (Lines.tokens front) =
      [] := HeaderState.events_of_unended hr hlines
  have htexts : Lines.texts (Lines.items settings.maxLogSize 0 front) = Lines.tokens front := by
    rw [Lines.texts_items hstands.tidy, Lines.tokens_of_ended hstands.ended]
  refine ⟨hoffset, ?_, ?_⟩
  · rw [hheader]
    exact HeaderState.unended_of_past hlines
  · intro more fs sink hleads hended hw
    rw [List.append_assoc] at hleads hended
    have hopen : fs.openPath r.path = .ok (.file (front ++ (back ++ more))) := by
      rw [hstands.path]
      exact hleads.opens
    have hdrop : (front ++ (back ++ more)).drop r.offset = back ++ more := by
      rw [hstands.offset, List.drop_left]
    have hle : r.offset ≤ (front ++ (back ++ more)).length := by
      rw [hstands.offset, List.length_append]
      omega
    have hrest : Lines.tail (back ++ more) = [] := by
      rwa [(Lines.cut_append_of_ended hstands.ended (back ++ more)).2] at hended
    have hk := passesAll_readToEnd hp hopen hle (hdrop.symm ▸ hrest) hw
    have ha : PassesAll settings rebuilt sink (front ++ (back ++ more)) _ :=
      passesAll_readToEnd hp hopen (hoffset.symm ▸ Nat.zero_le _) (by rwa [hoffset]) hw
    have hitems : rebuilt.itemsOf settings (front ++ (back ++ more)) =
        Lines.items settings.maxLogSize 0 front ++ r.itemsOf settings (front ++ (back ++ more)) := by
      rw [itemsOf, itemsOf, hoffset, List.drop_zero, hdrop, hstands.offset,
        Lines.items_append hstands.ended, Nat.zero_add]
    refine ⟨?_, ?_, ?_, ?_⟩
    · rw [ha.accepted, hk.accepted, hitems, hfile, hheader, hkept, Lines.texts_append, htexts,
        HeaderState.events_append, hnone, List.nil_append]
    · rw [ha.offset, hk.offset, hitems, hoffset, Lines.stop_append,
        Lines.stop_items hstands.tidy hstands.ended, Nat.zero_add, hstands.offset]
    · rw [ha.lastSeenSize, hk.lastSeenSize]
    · rw [ha.header, hk.header, hitems, hheader, hkept, Lines.texts_append, htexts,
        HeaderState.past_append]

/-- The header line `k=v` twice, and the line `x`. -/
def twiceHeaded : Bytes := [0x6B, 0x3D, 0x76, 0x0A, 0x6B, 0x3D, 0x76, 0x0A, 0x78, 0x0A]

/-- A reader of the file while it has the two header lines only. -/
def headedReader : Reader := new headedLines (oneFile (twiceHeaded.take 8)) "a.log" ⟨[]⟩ 0

theorem leaves_headedReader :
    headedReader.Leaves headedLines (oneFile (twiceHeaded.take 8)) .healthy
      (headedReader.cancelledAfter headedLines .healthy (twiceHeaded.take 8) 1) := by
  have hgoes : (match (headedReader.runUpTo headedLines .healthy (twiceHeaded.take 8) 1).1 with
    | .exhausted _ => true
    | _ => false) = true := by decide +kernel
  cases hended : (headedReader.runUpTo headedLines .healthy (twiceHeaded.take 8) 1).1 with
  | exhausted framed =>
    exact .cancelled (FileSystem.openPath_name FileSystem.isName_logs.1 rfl rfl)
      (entering_of_le _ (Nat.zero_le _)).symm (by decide) hended
  | stopped =>
    rw [hended] at hgoes
    cases hgoes
  | failed e =>
    rw [hended] at hgoes
    cases hgoes

/-- A reader that was cancelled between the two header lines stands behind the first, and the one that
is rebuilt from its checkpoint at the beginning. Both go on to deliver `x` with the attribute. -/
theorem rebuilt_reads_alike_twiceHeaded :
    let fs := fun n => oneFile (twiceHeaded.take n)
    let r := (headedReader.cancelledAfter headedLines .healthy (twiceHeaded.take 8) 1).reader
    let rebuilt := ofCheckpoint headedLines (fs 8) r.checkpoint
    headedLines.Lined ∧ headedLines.header.isSome ∧
      Watches headedLines "a.log" "/work/a.log" (twiceHeaded.take 8) r ∧
      r.header.attributes? = none ∧ (fs 8).canonical "a.log" = .ok "/work/a.log" ∧
      (fs 10).LeadsTo "a.log" "/work/a.log" twiceHeaded ∧ r.offset = 4 ∧ rebuilt.offset = 0 ∧
      (r.readToEnd headedLines (fs 10) .healthy).sink.accepted =
        [⟨.text "x", .ofList [("file_name", "a.log"), ("k", "v")]⟩] ∧
      (rebuilt.readToEnd headedLines (fs 10) .healthy).sink.accepted =
        [⟨.text "x", .ofList [("file_name", "a.log"), ("k", "v")]⟩] := by
  intro fs r rebuilt
  have hp : headedLines.Lined := ⟨rfl, rfl, by decide⟩
  have hleads (n : Nat) : (fs n).LeadsTo "a.log" "/work/a.log" (twiceHeaded.take n) :=
    ⟨FileSystem.canonical_name FileSystem.isName_logs.1 rfl rfl,
      FileSystem.openPath_name FileSystem.isName_logs.1 rfl rfl⟩
  have htidy : Lines.Tidy headedLines.maxLogSize (twiceHeaded.take 8) := by
    have hall : (∀ line ∈ Lines.whole (twiceHeaded.take 8), (Lines.trim line).length ≤ 8) ∧
        (Lines.tail (twiceHeaded.take 8)).length ≤ 8 := by decide
    exact ⟨hall.1, hall.2⟩
  have hmade : Watches headedLines "a.log" "/work/a.log" [] headedReader :=
    .made ⟨[]⟩ (hleads 8).canonical
  have hwatches : Watches headedLines "a.log" "/work/a.log" (twiceHeaded.take 8) r :=
    hmade.read (hleads 8) (by decide) htidy leaves_headedReader
  have hreading : r.header.attributes? = none := by decide +kernel
  have hended : Lines.tail (twiceHeaded.take 8 ++ [0x78, 0x0A]) = [] := by decide
  obtain ⟨hzero, -, halike⟩ := hwatches.rebuilt_reads_alike hp rfl hreading (hleads 8).canonical
  have hkept : (r.readToEnd headedLines (fs 10) .healthy).sink.accepted =
      [⟨.text "x", .ofList [("file_name", "a.log"), ("k", "v")]⟩] := by
    have hpath : r.path = "a.log" := by decide +kernel
    have hpasses := @passesAll_readToEnd headedLines r (fs 10) .healthy twiceHeaded hp
      (hpath ▸ (hleads 10).opens) (by decide +kernel) (by decide +kernel) Sink.healthy_willing
    exact hpasses.accepted.trans (by decide +kernel)
  refine ⟨hp, rfl, hwatches, hreading, (hleads 8).canonical, hleads 10, by decide +kernel, hzero,
    hkept, ?_⟩
  exact (halike [0x78, 0x0A] (fs 10) .healthy (hleads 10) hended Sink.healthy_willing).1.trans hkept

end Reader

end LogFollow
