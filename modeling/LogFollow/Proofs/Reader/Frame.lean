import LogFollow.Proofs.Reader.File

/-!
# What a reading does not touch

A reading moves the offset, completes the fingerprint and finds the header; it keeps the path of its
reader, the number of the poll in which the reader was found, and the attributes of the file. It does
not look at that number either: a reader that was found `n` polls later delivers the same.
-/
namespace LogFollow

/-- The attributes of a file depend on its path and on where that leads. -/
theorem FileAttributeChoice.attributes_of_canonical (choice : FileAttributeChoice)
    {fs fs' : FileSystem} {path : String} (h : fs.canonical path = fs'.canonical path) :
    choice.attributes fs path = choice.attributes fs' path := by
  simp only [attributes, h]

/-- Where no links are to be followed the attributes of a file are those of its path. -/
theorem FileAttributeChoice.attributes_eq {choice : FileAttributeChoice}
    (hn : choice.nameResolved = false) (hp : choice.pathResolved = false) (fs fs' : FileSystem)
    (path : String) : choice.attributes fs path = choice.attributes fs' path := by
  simp only [attributes, hn, hp, Bool.or_self, Bool.false_eq_true, if_false]

/-- The reader, had it been found `n` polls later. -/
def Reader.later (n : Nat) (r : Reader) : Reader := { r with generation := r.generation + n }

/-- The reading of a reader that was found `n` polls later. -/
def Reading.later (n : Nat) (reading : Reading) : Reading :=
  { reading with reader := reading.reader.later n }

/-- What a reading leaves as it was. -/
structure Reader.Keeps (r r' : Reader) : Prop where
  path : r'.path = r.path
  generation : r'.generation = r.generation
  fileAttributes : r'.fileAttributes = r.fileAttributes

theorem Reader.Keeps.refl (r : Reader) : r.Keeps r := ⟨rfl, rfl, rfl⟩

theorem Reader.Keeps.trans {r r' r'' : Reader} (h : r.Keeps r') (h' : r'.Keeps r'') : r.Keeps r'' :=
  ⟨h'.path.trans h.path, h'.generation.trans h.generation,
    h'.fileAttributes.trans h.fileAttributes⟩

/-- What a session leaves as it was. -/
structure Reader.Scans (r r' : Reader) : Prop extends Reader.Keeps r r' where
  lastSeenSize : r'.lastSeenSize = r.lastSeenSize

theorem Reader.Scans.refl (r : Reader) : r.Scans r := ⟨.refl r, rfl⟩

theorem Reader.Scans.trans {r r' r'' : Reader} (h : r.Scans r') (h' : r'.Scans r'') : r.Scans r'' :=
  ⟨h.toKeeps.trans h'.toKeeps, h'.lastSeenSize.trans h.lastSeenSize⟩

namespace Session

/-- The session of a reader that was found `n` polls later. -/
def later (n : Nat) (s : Session) : Session := { s with reader := s.reader.later n }

variable {settings : ReadSettings}

/-- Looking for a header line touches the header only. -/
theorem takeHeader_keeps (settings : ReadSettings) (s : Session) (body : Body) :
    ∃ header, (s.takeHeader settings body).2 = { s with reader.header := header } := by
  unfold takeHeader
  split
  · split
    · exact ⟨_, rfl⟩
    · exact ⟨_, rfl⟩
  · exact ⟨s.reader.header, rfl⟩

theorem emit_scans (settings : ReadSettings) (s : Session) (token : Bytes) :
    s.reader.Scans (s.emit settings token).2.reader := by
  unfold emit
  split
  · exact .refl _
  · rcases s.decoder.decode token with ⟨body, decoder⟩
    obtain ⟨header, hh⟩ := takeHeader_keeps settings { s with decoder } body
    simp only
    generalize takeHeader settings { s with decoder } body = taken at hh
    obtain ⟨isHeader, t⟩ := taken
    obtain rfl : t = { s with decoder, reader.header := header } := hh
    cases isHeader with
    | true => exact ⟨⟨rfl, rfl, rfl⟩, rfl⟩
    | false =>
      simp only [Bool.false_eq_true, if_false]
      generalize Sink.offer _ _ = offered
      obtain ⟨offer, sink⟩ := offered
      cases offer <;> exact ⟨⟨rfl, rfl, rfl⟩, rfl⟩

theorem advance_scans (s : Session) (place : Nat) : s.reader.Scans (s.advance place).reader :=
  ⟨⟨rfl, rfl, rfl⟩, rfl⟩

theorem deliver_scans (settings : ReadSettings) (fuel : Nat) (framed : Bool) (scanner : Scanner)
    (s : Session) : s.reader.Scans (deliver settings fuel framed scanner s).2.2.reader := by
  refine (course_deliver settings fuel framed scanner s).keeps
    (P := fun t => s.reader.Scans t.reader) (fun _ h => h) ?_ ?_ (.refl _)
  · exact fun t token h => h.trans (emit_scans settings t token)
  · exact fun t place h => h.trans (t.advance_scans place)

theorem deliverRest_scans (settings : ReadSettings) (scanner : Scanner) (s : Session) :
    s.reader.Scans (s.deliverRest settings scanner).2.2.reader := by
  refine deliverRest_keeps (P := fun t => s.reader.Scans t.reader) ?_ ?_ scanner (.refl _)
  · exact fun t token h => h.trans (emit_scans settings t token)
  · exact fun t place h => h.trans (t.advance_scans place)

theorem takeHeader_later (settings : ReadSettings) (n : Nat) (s : Session) (body : Body) :
    (s.later n).takeHeader settings body =
      ((s.takeHeader settings body).1, (s.takeHeader settings body).2.later n) := by
  have hr : (s.later n).reader.header = s.reader.header := rfl
  unfold takeHeader
  rw [hr]
  cases settings.header with
  | none => rfl
  | some rule =>
    cases s.reader.header with
    | done attributes => rfl
    | reading found =>
      simp only
      cases rule.extract? (lineOf body) found <;> rfl

theorem emit_later (settings : ReadSettings) (n : Nat) (s : Session) (token : Bytes) :
    (s.later n).emit settings token =
      ((s.emit settings token).1, (s.emit settings token).2.later n) := by
  unfold emit
  split
  · rfl
  · have hd : (s.later n).decoder.decode token = s.decoder.decode token := rfl
    rw [hd]
    rcases s.decoder.decode token with ⟨body, decoder⟩
    have ht := takeHeader_later settings n { s with decoder } body
    have hs : ({ s.later n with decoder } : Session) = later n { s with decoder } := rfl
    simp only [hs, ht]
    rcases takeHeader settings { s with decoder } body with ⟨isHeader, t⟩
    cases isHeader with
    | true => rfl
    | false =>
      have ho : (t.later n).sink.offer (eventOf (t.later n).reader body) =
          t.sink.offer (eventOf t.reader body) := rfl
      simp only [Bool.false_eq_true, if_false, ho]
      rcases t.sink.offer (eventOf t.reader body) with ⟨offer, sink⟩
      cases offer <;> rfl

theorem deliver_later (settings : ReadSettings) (n fuel : Nat) (framed : Bool) (scanner : Scanner)
    (s : Session) :
    deliver settings fuel framed scanner (s.later n) =
      ((deliver settings fuel framed scanner s).1, (deliver settings fuel framed scanner s).2.1,
        (deliver settings fuel framed scanner s).2.2.later n) := by
  induction fuel generalizing framed scanner s with
  | zero => rfl
  | succ fuel ih =>
    have hlook : (s.later n).sink.look = s.sink.look := rfl
    have hlooked : (s.later n).looked = s.looked.later n := rfl
    rw [deliver, deliver, hlook, hlooked]
    split
    · rfl
    · rcases scanner.next with ⟨item | _ | _, t⟩
      · cases item with
        | oversized size => exact ih true t (s.looked.advance t.position)
        | token token =>
          simp only [emit_later]
          rcases s.looked.emit settings token with ⟨_ | _, s'⟩
          · rfl
          · exact ih true t (s'.advance t.position)
      · rfl
      · rfl

theorem deliverRest_later (settings : ReadSettings) (n : Nat) (scanner : Scanner) (s : Session) :
    (s.later n).deliverRest settings scanner =
      ((s.deliverRest settings scanner).1, (s.deliverRest settings scanner).2.1,
        (s.deliverRest settings scanner).2.2.later n) := by
  unfold deliverRest
  rcases scanner.takeRemaining with ⟨_ | rest, t⟩
  · rfl
  · simp only [emit_later]
    split
    · rfl
    · rcases s.emit settings rest with ⟨_ | _, s'⟩ <;> rfl

end Session

namespace Reader

variable {settings : ReadSettings}

theorem conclude_scans (settings : ReadSettings) (size : Nat) (closing : Bool → Bool)
    (scanner : Scanner) (ending : Session.Ending) (s : Session) :
    s.reader.Scans (conclude settings size closing scanner (ending, s)).reader := by
  cases ending with
  | stopped => exact ⟨⟨rfl, rfl, rfl⟩, rfl⟩
  | failed e => exact ⟨⟨rfl, rfl, rfl⟩, rfl⟩
  | exhausted framed =>
    rw [conclude]
    split
    · have hr := Session.deliverRest_scans settings scanner s
      generalize s.deliverRest settings scanner = rest at hr
      obtain ⟨_ | _, u, t⟩ := rest
      · exact hr.trans ⟨⟨rfl, rfl, rfl⟩, rfl⟩
      · exact hr.trans ⟨⟨rfl, rfl, rfl⟩, rfl⟩
    · exact ⟨⟨rfl, rfl, rfl⟩, rfl⟩

/-- A reading notes the size of what was opened. -/
theorem readOpened_scans (settings : ReadSettings) (r : Reader) (sink : Sink)
    (opened : FileSystem.Opened) (flush : Bool) :
    { r with lastSeenSize := opened.size }.Scans (r.readOpened settings sink opened flush).reader := by
  rw [readOpened_eq]
  split
  · next hquiet => exact ⟨⟨rfl, rfl, rfl⟩, hquiet.2.symm⟩
  · have hd := Session.deliver_scans settings (opened.size - r.offset + 2) false
      (r.scanner settings opened) (r.session settings sink opened.size)
    exact hd.trans (conclude_scans settings opened.size _ _ _ _)

theorem readOpened_keeps (settings : ReadSettings) (r : Reader) (sink : Sink)
    (opened : FileSystem.Opened) (flush : Bool) :
    r.Keeps (r.readOpened settings sink opened flush).reader := by
  have hs := (readOpened_scans settings r sink opened flush).toKeeps
  exact ⟨hs.path, hs.generation, hs.fileAttributes⟩

theorem restart_keeps (settings : ReadSettings) (r : Reader) (opened : FileSystem.Opened) :
    r.Keeps (r.restart settings opened).2 := by
  unfold restart
  simp only
  split <;> exact ⟨rfl, rfl, rfl⟩

theorem read_keeps (settings : ReadSettings) (fs : FileSystem) (r : Reader) (sink : Sink)
    (flush : Bool) : r.Keeps (r.read settings fs sink flush).reader := by
  unfold read
  split
  · exact .refl r
  · exact .refl r
  · split
    · have hr := restart_keeps settings r ‹_›
      generalize r.restart settings _ = restarted at hr
      obtain ⟨_ | _, r'⟩ := restarted
      · exact hr
      · exact hr.trans (readOpened_keeps settings r' sink _ flush)
    · exact readOpened_keeps settings r sink _ flush

theorem conclude_later (settings : ReadSettings) (n size : Nat) (closing : Bool → Bool)
    (scanner : Scanner) (ending : Session.Ending) (s : Session) :
    conclude settings size closing scanner (ending, s.later n) =
      (conclude settings size closing scanner (ending, s)).later n := by
  cases ending with
  | stopped => rfl
  | failed e => rfl
  | exhausted framed =>
    rw [conclude, conclude, Session.deliverRest_later]
    split
    · rcases s.deliverRest settings scanner with ⟨_ | _, u, t⟩ <;> rfl
    · rfl

theorem deliver_later (settings : ReadSettings) (n : Nat) (r : Reader) (sink : Sink)
    (opened : FileSystem.Opened) :
    (r.later n).deliver settings sink opened =
      ((r.deliver settings sink opened).1, (r.deliver settings sink opened).2.1,
        (r.deliver settings sink opened).2.2.later n) := by
  have hs : (r.later n).scanner settings opened = r.scanner settings opened := by
    cases opened <;> rfl
  rw [deliver, hs]
  exact Session.deliver_later settings n _ false _ (r.session settings sink opened.size)

theorem readOpened_later (settings : ReadSettings) (n : Nat) (r : Reader) (sink : Sink)
    (opened : FileSystem.Opened) (flush : Bool) :
    (r.later n).readOpened settings sink opened flush =
      (r.readOpened settings sink opened flush).later n := by
  rw [readOpened_eq, readOpened_eq, deliver_later, conclude_later]
  change (if opened.size = r.offset ∧ opened.size = r.lastSeenSize then _ else _) = _
  split <;> rfl

theorem restart_later (settings : ReadSettings) (n : Nat) (r : Reader)
    (opened : FileSystem.Opened) :
    (r.later n).restart settings opened =
      ((r.restart settings opened).1, (r.restart settings opened).2.later n) := by
  unfold restart
  simp only
  split <;> rfl

theorem read_later (settings : ReadSettings) (fs : FileSystem) (n : Nat) (r : Reader)
    (sink : Sink) (flush : Bool) :
    (r.later n).read settings fs sink flush = (r.read settings fs sink flush).later n := by
  have hp : (r.later n).path = r.path := rfl
  have ho : (r.later n).offset = r.offset := rfl
  unfold read
  rw [hp, ho]
  split
  · rfl
  · rfl
  · split
    · rw [restart_later]
      rcases r.restart settings _ with ⟨_ | _, r'⟩
      · rfl
      · exact readOpened_later settings n r' sink _ flush
    · exact readOpened_later settings n r sink _ flush

theorem retire_later (settings : ReadSettings) (fs : FileSystem) (n : Nat) (r : Reader)
    (sink : Sink) :
    (r.later n).retire settings fs sink = (r.retire settings fs sink).later n := by
  have hp : (r.later n).path = r.path := rfl
  have hf : (r.later n).fingerprint = r.fingerprint := rfl
  unfold retire
  rw [hp]
  split
  · rfl
  · rfl
  · split
    · rfl
    · rw [hf]
      split
      · exact read_later settings fs n r sink true
      · rfl

end Reader

end LogFollow
