import LogFollow.Proofs.Fingerprint
import LogFollow.Proofs.Reader.Completion
import LogFollow.Proofs.Reader.Frame

/-!
# The last reading of a reader

When a reader is given up, its path is looked at once more. If the same file is still there, all of it is
delivered that stands behind the offset: the lines, and what forms no line at the end. If nothing is there, or
another file, the reader is left as it was. Every reading counts the events that its sink has accepted.
-/
namespace LogFollow

/-! ## Counting the events -/

namespace Session

variable {base : Nat} {s : Session}

/-- The session has counted the events that were accepted behind the first `base` of them. -/
def Counts (base : Nat) (s : Session) : Prop := s.sink.accepted.length = base + s.emitted

theorem Counts.takeHeader (h : s.Counts base) (settings : ReadSettings) (body : Body) :
    (s.takeHeader settings body).2.Counts base := by
  obtain ⟨header, hsame⟩ := takeHeader_keeps settings s body
  rw [hsame]
  exact h

theorem Counts.emit (h : s.Counts base) (settings : ReadSettings) (token : Bytes) :
    (s.emit settings token).2.Counts base := by
  unfold Session.emit
  split
  · exact h
  · have hdecoded : Counts base { s with decoder := (s.decoder.decode token).2 } := h
    have hheader := hdecoded.takeHeader settings (s.decoder.decode token).1
    simp only
    generalize Session.takeHeader settings { s with decoder := (s.decoder.decode token).2 }
      (s.decoder.decode token).1 = met at hheader ⊢
    obtain ⟨isHeader, t⟩ := met
    split
    · exact hheader
    · have hspec := t.sink.offer_spec (eventOf t.reader (s.decoder.decode token).1)
      generalize t.sink.offer (eventOf t.reader (s.decoder.decode token).1) = offered at hspec ⊢
      obtain ⟨offer, sink⟩ := offered
      rcases hspec with ⟨rfl, haccepted⟩ | ⟨hnot, haccepted, -⟩
      · change sink.accepted.length = base + (t.emitted + 1)
        rw [haccepted, List.length_append, List.length_singleton, hheader, Nat.add_assoc]
      · have hsame : sink.accepted.length = base + t.emitted := by
          rw [haccepted]
          exact hheader
        cases offer with
        | accepted => exact absurd rfl hnot
        | refused => exact hsame
        | broken message => exact hsame

theorem Counts.deliver (h : s.Counts base) (settings : ReadSettings) (fuel : Nat) (framed : Bool)
    (scanner : Scanner) : (deliver settings fuel framed scanner s).2.2.Counts base :=
  (course_deliver settings fuel framed scanner s).keeps
    (fun t ht => (congrArg List.length t.sink.accepted_look).trans ht)
    (fun _ token ht => ht.emit settings token) (fun _ _ ht => ht) h

theorem Counts.deliverRest (h : s.Counts base) (settings : ReadSettings) (scanner : Scanner) :
    (s.deliverRest settings scanner).2.2.Counts base :=
  deliverRest_keeps (fun _ token ht => ht.emit settings token) (fun _ _ ht => ht) scanner h

end Session

namespace Reader

variable {settings : ReadSettings} {r : Reader} {sink : Sink} {content : Bytes} {fs : FileSystem}

theorem length_accepted_conclude {base size n : Nat} {closing : Bool → Bool} {scanner : Scanner}
    {result : Session.Ending × Session} {reached : Bool} (h : result.2.Counts base)
    (ho : (conclude settings size closing scanner result).outcome = .ok ⟨n, reached⟩) :
    (conclude settings size closing scanner result).sink.accepted.length = base + n := by
  obtain ⟨ending, s⟩ := result
  cases ending with
  | stopped =>
    cases ho
    exact h
  | failed e => cases ho
  | exhausted framed =>
    rw [conclude] at ho ⊢
    split at ho
    · next hc =>
      rw [if_pos hc]
      have hrest := h.deliverRest settings scanner
      generalize s.deliverRest settings scanner = delivered at ho hrest ⊢
      obtain ⟨_ | _, u, t⟩ := delivered
      · cases ho
      · cases ho
        exact hrest
    · next hc =>
      rw [if_neg hc]
      cases ho
      exact h

/-- A reading says how many events its sink has accepted. -/
theorem length_accepted_of_outcome {opened : FileSystem.Opened} {flush reached : Bool} {n : Nat}
    (ho : (r.readOpened settings sink opened flush).outcome = .ok ⟨n, reached⟩) :
    (r.readOpened settings sink opened flush).sink.accepted.length = sink.accepted.length + n := by
  rw [readOpened_eq] at ho ⊢
  split at ho
  · next hidle =>
    rw [if_pos hidle]
    cases ho
    rfl
  · next hgoes =>
    rw [if_neg hgoes]
    have hfirst : (r.session settings sink opened.size).Counts sink.accepted.length := rfl
    exact length_accepted_conclude (hfirst.deliver settings _ _ _) ho

/-! ## Flushing a file -/

/-- A reading has delivered all that stood behind the offset, and its reader stands at the end. -/
structure Flushes (settings : ReadSettings) (r : Reader) (sink : Sink) (content : Bytes)
    (reading : Reading) : Prop where
  accepted : reading.sink.accepted =
    sink.accepted ++ (Lines.tokens (content.drop r.offset)).map (Session.event settings r)
  outcome : reading.outcome = .ok ⟨(Lines.tokens (content.drop r.offset)).length, true⟩
  reader : reading.reader =
    { r with
      offset := content.length
      lastSeenSize := content.length
      fingerprint := reading.reader.fingerprint }

/-- Behind the header a reading that flushes delivers the rest of the file. -/
theorem flushes_readOpened (hp : settings.Lined) {attributes : Attributes}
    (hheader : r.header = .done attributes) (hle : r.offset ≤ content.length)
    (hshort : Lines.Short settings.maxLogSize (content.drop r.offset)) (hw : sink.Willing) :
    Flushes settings r sink content (r.readOpened settings sink (.file content) true) := by
  have hfixed (token : Bytes) : r.header.meet settings token = (false, r.header) := by
    rw [hheader]
    exact HeaderState.meet_done attributes token
  obtain ⟨front, back, h⟩ := proceeds_readOpened hp hshort sink true
  have hback : back = [] := h.whole hw (.inl rfl)
  have hfront : content.drop r.offset = front := by rw [h.split, hback, List.append_nil]
  have hend : r.offset + front.length = content.length := by
    rw [← hfront, List.length_drop]
    omega
  have haccepted : (r.readOpened settings sink (.file content) true).sink.accepted =
      sink.accepted ++ (Lines.tokens (content.drop r.offset)).map (Session.event settings r) := by
    rw [h.accepted, HeaderState.events_of_fixed hfixed, hfront]
    rfl
  have hreader := h.reader
  have hkept := h.header
  rw [HeaderState.past_of_fixed hfixed] at hkept
  rw [hend, hkept.eq_of_fixed hfixed] at hreader
  refine ⟨haccepted, ?_, hreader⟩
  obtain ⟨n, hn⟩ := outcome_of_willing hp r content hw true
  have hlength := length_accepted_of_outcome hn
  rw [haccepted, List.length_append, List.length_map] at hlength
  rw [hn, Nat.add_left_cancel hlength, hreader, beq_self_eq_true]

/-- The last reading of a file that was read to its end finds nothing. -/
theorem retire_of_drained (settings : ReadSettings)
    (ho : fs.openPath r.path = .ok (.file content)) (hoffset : r.offset = content.length)
    (hseen : r.lastSeenSize = content.length) (sink : Sink) :
    ∃ reached, r.retire settings fs sink = ⟨.ok ⟨0, reached⟩, r, sink⟩ := by
  rw [retire_of_openPath settings ho]
  split
  · rw [read_of_openPath ho (Nat.le_of_eq hoffset)]
    exact ⟨true, if_pos ⟨hoffset.symm, hseen.symm⟩⟩
  · exact ⟨false, rfl⟩

/-- **The last reading of a reader delivers the rest of its file, and nothing of another one.** If there is
nothing at the path of the reader, or a file that does not match its fingerprint, the reading succeeds,
delivers nothing and leaves the reader as it was. If the path cannot be opened or read for another reason, it
fails and does no more. If the file is the same, a reader that is behind its header gets to the end of it: the
lines behind the offset and the tail are delivered, and a further last reading delivers nothing. It does not
matter which size of the file the reader has seen last. -/
theorem retire_flushes_same_file (hp : settings.Lined) {attributes : Attributes}
    (hheader : r.header = .done attributes) (fs : FileSystem) (sink : Sink) :
    (fs.openPath r.path = .error .notFound →
      r.retire settings fs sink = ⟨.ok ⟨0, false⟩, r, sink⟩) ∧
    (∀ cause, fs.openPath r.path = .error cause → cause ≠ .notFound →
      r.retire settings fs sink = ⟨.error (.io cause), r, sink⟩) ∧
    (fs.openPath r.path = .ok .directory →
      r.retire settings fs sink = ⟨.error (.io .isDirectory), r, sink⟩) ∧
    (∀ content, fs.openPath r.path = .ok (.file content) →
      ¬ (Fingerprint.ofContent settings.fingerprintSize content).Alike r.fingerprint →
      r.retire settings fs sink = ⟨.ok ⟨0, false⟩, r, sink⟩) ∧
    (∀ content, fs.openPath r.path = .ok (.file content) →
      (Fingerprint.ofContent settings.fingerprintSize content).Alike r.fingerprint →
      r.offset ≤ content.length → Lines.Short settings.maxLogSize (content.drop r.offset) →
      sink.Willing →
      Flushes settings r sink content (r.retire settings fs sink) ∧
        ∀ later : Sink, ∃ reached, (r.retire settings fs sink).reader.retire settings fs later =
          ⟨.ok ⟨0, reached⟩, (r.retire settings fs sink).reader, later⟩) := by
  refine ⟨fun hgone => ?_, fun cause hcause hother => ?_, fun hdirectory => ?_, fun content ho hnot => ?_,
    fun content ho halike hle hshort hw => ?_⟩
  · rw [retire, hgone]
  · rw [retire, hcause]
    cases cause with
    | notFound => exact absurd rfl hother
    | _ => rfl
  · rw [retire, hdirectory]
    rfl
  · rw [retire_of_openPath settings ho, if_neg (mt (Fingerprint.matchesWith_iff _ _).mp hnot)]
  · have hread : r.retire settings fs sink = r.readOpened settings sink (.file content) true := by
      rw [retire_of_openPath settings ho, if_pos ((Fingerprint.matchesWith_iff _ _).mpr halike),
        read_of_openPath ho hle]
    have hflushes := flushes_readOpened hp hheader hle hshort hw
    rw [← hread] at hflushes
    have hreader := hflushes.reader
    refine ⟨hflushes, fun later => ?_⟩
    have hpath : (r.retire settings fs sink).reader.path = r.path := by rw [hreader]
    exact retire_of_drained settings (hpath ▸ ho) (by rw [hreader]) (by rw [hreader]) later

/-- A reader in the middle of the first line of `headed`, which knows the first four bytes, has seen the size
of the file, and is behind the header. -/
def halfway : Reader where
  path := "a.log"
  fingerprint := .ofContent 4 headed
  offset := 2
  lastSeenSize := headed.length
  generation := 3
  header := .done (.ofList [("k", "v")])
  fileAttributes := .ofList [("file_name", "a.log")]

/-- The rest of the line, a line and the tail are delivered, of another file nothing. -/
theorem retire_flushes_halfway :
    let fs := oneFile headed
    let other : Bytes := [0x6B, 0x3D, 0x76, 0x0D, 0x78]
    headedLines.Lined ∧ halfway.header = .done (.ofList [("k", "v")]) ∧
      fs.openPath halfway.path = .ok (.file headed) ∧
      (halfway.retire headedLines fs .healthy).outcome = .ok ⟨3, true⟩ ∧
      (halfway.retire headedLines fs .healthy).sink.accepted.map (·.body) =
        [.text "v", .text "x", .text "yy"] ∧
      (halfway.retire headedLines fs .healthy).reader.offset = 9 ∧
      halfway.retire headedLines (oneFile other) .healthy = ⟨.ok ⟨0, false⟩, halfway, .healthy⟩ := by
  intro fs other
  have hp : headedLines.Lined := ⟨rfl, rfl, by decide⟩
  have hshort : Lines.Short headedLines.maxLogSize (headed.drop halfway.offset) :=
    (Lines.short_iff _ _).mpr (by decide)
  have ho (content : Bytes) : (oneFile content).openPath halfway.path = .ok (.file content) :=
    FileSystem.openPath_name FileSystem.isName_logs.1 rfl rfl
  have hsame := (Fingerprint.matchesWith_iff (.ofContent headedLines.fingerprintSize headed)
    halfway.fingerprint).mp (by decide)
  have hother := mt (Fingerprint.matchesWith_iff (.ofContent headedLines.fingerprintSize other)
    halfway.fingerprint).mpr (by decide)
  obtain ⟨hflushes, -⟩ := (retire_flushes_same_file hp (r := halfway) rfl fs .healthy).2.2.2.2 headed
    (ho headed) hsame (by decide) hshort Sink.healthy_willing
  refine ⟨hp, rfl, ho headed, hflushes.outcome, ?_, ?_, ?_⟩
  · rw [hflushes.accepted]
    decide +kernel
  · rw [hflushes.reader]
    rfl
  · exact (retire_flushes_same_file hp (r := halfway) rfl (oneFile other) .healthy).2.2.2.1 other
      (ho other) hother

end Reader

end LogFollow
