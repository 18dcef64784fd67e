import LogFollow.Proofs.Reader.Excerpts
import LogFollow.Proofs.Reader.Frame

/-!
# What a reading knows of its file

However a reading ends, its reader has the fingerprint of the file as the file is now, knows its size, and
does not stand behind its end. A reading whose file has become shorter than the offset begins anew, and so
has nothing of the longer file.
-/
namespace LogFollow

/-- A reader has the fingerprint of a file, of at most `limit` bytes, knows its size, and stands in it. -/
structure Reader.Measures (limit : Nat) (content : Bytes) (r : Reader) : Prop where
  fingerprint : r.fingerprint = .ofContent limit content
  lastSeenSize : r.lastSeenSize = content.length
  offset : r.offset ≤ content.length

namespace Session

variable {settings : ReadSettings} {content : Bytes} {scanner : Scanner} {s : Session}

theorem deliverRest_scanner (settings : ReadSettings) (scanner : Scanner) (s : Session) :
    (s.deliverRest settings scanner).2.1 = scanner.takeRemaining.2 := by
  unfold deliverRest
  rcases scanner.takeRemaining with ⟨_ | rest, u⟩
  · rfl
  · simp only
    split
    · rfl
    · rcases s.emit settings rest with ⟨_ | _, t⟩ <;> rfl

/-- What forms no token does not lead out of the file. -/
theorem offset_deliverRest (h : Stand content scanner s)
    (hd : s.decoder.encoding = settings.encoding) :
    (s.deliverRest settings scanner).2.2.reader.offset ≤ content.length := by
  have hrest := h.inFile.takeRemaining
  have hstays : s.reader.offset ≤ content.length := Nat.le_trans h.offset h.inFile.le
  unfold deliverRest
  generalize scanner.takeRemaining = taken at hrest
  obtain ⟨_ | rest, u⟩ := taken
  · exact hstays
  · simp only
    split
    · exact hrest.inFile.le
    · obtain ⟨-, herror⟩ := quotes_emit hd hrest h.offset
      generalize s.emit settings rest = emitted at herror
      obtain ⟨e | _, t⟩ := emitted
      · rw [(herror e rfl).2]
        exact hstays
      · exact hrest.inFile.le

end Session

namespace Reader

variable {settings : ReadSettings} {content : Bytes}

/-- A reading ends with the session and the scanner that it has come to, or with those behind the rest of
the file. -/
theorem conclude_eq_close (settings : ReadSettings) (size : Nat) (closing : Bool → Bool)
    (scanner : Scanner) (ending : Session.Ending) (s : Session) :
    ∃ outcome, conclude settings size closing scanner (ending, s) = s.close scanner outcome ∨
      conclude settings size closing scanner (ending, s) =
        (s.deliverRest settings scanner).2.2.close (s.deliverRest settings scanner).2.1 outcome := by
  cases ending with
  | stopped => exact ⟨_, .inl rfl⟩
  | failed e => exact ⟨_, .inl rfl⟩
  | exhausted framed =>
    rw [conclude]
    split
    · rcases s.deliverRest settings scanner with ⟨_ | _, u, t⟩ <;> exact ⟨_, .inr rfl⟩
    · exact ⟨_, .inl rfl⟩

/-- A reading of a file whose fingerprint the reader has. -/
theorem measures_readOpened (hr : settings.framing.CutsFront) {r : Reader}
    (hf : r.fingerprint = .ofContent settings.fingerprintSize content)
    (hl : r.offset ≤ content.length) (sink : Sink) (flush : Bool) :
    (r.readOpened settings sink (.file content) flush).reader.Measures settings.fingerprintSize
      content := by
  have hsize := (readOpened_scans settings r sink (.file content) flush).lastSeenSize
  rw [readOpened_eq] at hsize ⊢
  split at hsize
  · next hquiet =>
    rw [if_pos hquiet]
    exact ⟨hf, hsize, hl⟩
  · next hgrown =>
    rw [if_neg hgrown]
    have hsource := ofFile_deliver hf sink
    have hstand : Session.Stand content (r.scanner settings (.file content))
        (r.session settings sink content.length) :=
      ⟨⟨hr, (stream_source settings r content).symm, hl⟩, Nat.le_refl _⟩
    obtain ⟨hquotes, hstand'⟩ := (r.course_deliver settings sink (.file content)).quotes hstand rfl
    obtain ⟨outcome, hclose | hclose⟩ := conclude_eq_close settings content.length
      (fun framed => flush || (!framed && content.length == r.lastSeenSize))
      (r.deliver settings sink (.file content)).2.1 (r.deliver settings sink (.file content)).1
      (r.deliver settings sink (.file content)).2.2
    · refine ⟨?_, hsize, ?_⟩
      all_goals rw [show FileSystem.Opened.size (.file content) = content.length from rfl, hclose]
      · exact hsource.fingerprint
      · exact Nat.le_trans hstand'.offset hstand'.inFile.le
    · refine ⟨?_, hsize, ?_⟩
      all_goals rw [show FileSystem.Opened.size (.file content) = content.length from rfl, hclose]
      · rw [Session.close, Session.deliverRest_scanner, Scanner.takeRemaining_source]
        exact hsource.fingerprint
      · exact Session.offset_deliverRest hstand' hquotes.decoder

/-- **However a reading ends, its reader has the fingerprint of the file, knows its size, and does not stand
behind its end.** -/
theorem measures_read (hr : settings.framing.CutsFront) {fs : FileSystem} {r : Reader}
    (ho : fs.openPath r.path = .ok (.file content))
    (hf : r.fingerprint = .ofContent settings.fingerprintSize content) (sink : Sink) (flush : Bool) :
    (r.read settings fs sink flush).reader.Measures settings.fingerprintSize content := by
  by_cases hl : r.offset ≤ content.length
  · rw [read_of_openPath ho hl]
    exact measures_readOpened hr hf hl sink flush
  · obtain ⟨r', hrestart, hzero, hf'⟩ : ∃ r', r.restart settings (.file content) = (.ok (), r') ∧
        r'.offset = 0 ∧ r'.fingerprint = .ofContent settings.fingerprintSize content :=
      ⟨_, rfl, rfl, rfl⟩
    unfold read
    rw [ho]
    simp only [hrestart]
    rw [if_pos (by exact Nat.lt_of_not_le hl)]
    exact measures_readOpened hr hf' (hzero ▸ Nat.zero_le _) sink flush

end Reader

end LogFollow
