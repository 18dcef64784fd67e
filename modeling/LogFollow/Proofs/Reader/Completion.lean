import LogFollow.Proofs.Reader.Faults

/-!
# Readings that come to the end of a file

Whether a file is deleted depends on whether its reading says that it has come to the end. It says so only
if all of the file is consumed, and nothing but a sink can keep it from coming there: a reading that delivers
what forms no line as well, as those do after which the file is deleted, comes to the end if its sink is
willing.
-/
namespace LogFollow

namespace Session

/-- A willing sink takes what forms no token. -/
theorem deliverRest_of_willing {settings : ReadSettings} {s : Session}
    (hd : s.decoder.encoding = settings.encoding) (hw : s.sink.Willing) (scanner : Scanner) :
    (s.deliverRest settings scanner).1 = .ok () := by
  unfold deliverRest
  rcases scanner.takeRemaining with ⟨_ | rest, u⟩
  · rfl
  · simp only
    split
    · rfl
    · have he := emits hd rest
      generalize s.emit settings rest = result at he ⊢
      cases he with
      | passed _ => rfl
      | rejected e ha hstops => exact absurd hstops (ha.not_stops hw)

end Session

namespace Reader

variable {settings : ReadSettings} {r : Reader} {content : Bytes}

/-- A reading that says that it has come to the end has done so. -/
theorem offset_of_conclude {size n : Nat} {closing : Bool → Bool} {scanner : Scanner}
    {result : Session.Ending × Session}
    (h : (conclude settings size closing scanner result).outcome = .ok ⟨n, true⟩) :
    (conclude settings size closing scanner result).reader.offset = size := by
  obtain ⟨ending, s⟩ := result
  cases ending with
  | stopped => cases h
  | failed e => cases h
  | exhausted framed =>
    rw [conclude] at h ⊢
    split at h
    · next hc =>
      rw [if_pos hc]
      generalize s.deliverRest settings scanner = delivered at h ⊢
      obtain ⟨_ | _, u, t⟩ := delivered
      · cases h
      · exact beq_iff_eq.mp (congrArg ReadOutcome.reachedEnd (Except.ok.inj h))
    · next hc =>
      rw [if_neg hc]
      exact beq_iff_eq.mp (congrArg ReadOutcome.reachedEnd (Except.ok.inj h))

theorem offset_of_reachedEnd {sink : Sink} {opened : FileSystem.Opened} {flush : Bool} {n : Nat}
    (h : (r.readOpened settings sink opened flush).outcome = .ok ⟨n, true⟩) :
    (r.readOpened settings sink opened flush).reader.offset = opened.size := by
  rw [readOpened_eq] at h ⊢
  split at h
  · next hidle =>
    rw [if_pos hidle]
    exact hidle.1.symm
  · next hgoes =>
    rw [if_neg hgoes]
    exact offset_of_conclude h

/-- With a willing sink a reading does not fail, and says truly whether it has come to the end. -/
theorem outcome_of_willing (hp : settings.Lined) (r : Reader) (content : Bytes) {sink : Sink}
    (hw : sink.Willing) (flush : Bool) :
    ∃ n, (r.readOpened settings sink (.file content) flush).outcome =
      .ok ⟨n, (r.readOpened settings sink (.file content) flush).reader.offset ==
        content.length⟩ := by
  by_cases hidle : content.length = r.offset ∧ content.length = r.lastSeenSize
  · have hread : r.readOpened settings sink (.file content) flush = ⟨.ok ⟨0, true⟩, r, sink⟩ :=
      if_pos hidle
    rw [hread]
    exact ⟨0, by rw [beq_iff_eq.mpr hidle.1.symm]⟩
  · obtain ⟨scanner, -, -, hread⟩ := readOpened_file hp r sink content flush hidle
    obtain ⟨_, _, _, hpasses, -, -⟩ := (runs_ran settings r sink content).passes
    have hexhausted := (runs_ran settings r sink content).willing hw
    rw [hread]
    generalize r.ran settings sink content = result at hpasses hexhausted
    obtain ⟨ending, s⟩ := result
    obtain rfl := hexhausted
    rw [conclude]
    split
    · have hok := Session.deliverRest_of_willing hpasses.decoder (hpasses.willing hw) scanner
      generalize s.deliverRest settings scanner = delivered at hok
      obtain ⟨result, u, t⟩ := delivered
      obtain rfl := hok
      exact ⟨_, rfl⟩
    · exact ⟨_, rfl⟩

/-- A cancelled sink is offered nothing. -/
theorem sink_of_cancelled {sink : Sink} (hc : sink.cancelled = true) (opened : FileSystem.Opened)
    (flush : Bool) : (r.readOpened settings sink opened flush).sink = sink := by
  rw [readOpened_eq]
  split
  · rfl
  · have hstopped : r.deliver settings sink opened =
        (.stopped, r.scanner settings opened, r.session settings sink opened.size) := by
      have hlook := Sink.look_of_cancelled hc
      have hlooked : (r.session settings sink opened.size).looked =
          r.session settings sink opened.size := by
        rw [Session.looked, Reader.session, hlook]
      have hstops : (r.session settings sink opened.size).sink.look.1 = true :=
        congrArg Prod.fst hlook
      rw [deliver, Session.deliver, if_pos hstops, hlooked]
    rw [hstopped]
    rfl

/-- A reader has consumed the beginning `front` of a file, and just the events of its tokens were
accepted. -/
structure Consumed (settings : ReadSettings) (r : Reader) (events : List Event)
    (front back : Bytes) : Prop where
  ended : Lines.tail front = [] ∨ back = []
  offset : r.offset = front.length
  events : events.map (·.body) = (Lines.tokens front).map settings.encoding.body
  fingerprint : r.fingerprint = .ofContent settings.fingerprintSize (front ++ back)

/-- A reading has consumed a file up to `back`. It comes to the end unless the sink keeps it from it, and
says so only there. -/
structure Consumes (settings : ReadSettings) (r : Reader) (sink : Sink) (events : List Event)
    (content front back : Bytes) (reading : Reading) : Prop where
  split : content = front ++ back
  accepted : sink.accepted <+: reading.sink.accepted
  consumed : reading.reader.Consumed settings
    (events ++ reading.sink.accepted.drop sink.accepted.length) front back
  path : reading.reader.path = r.path
  complete : ∀ n, reading.outcome = .ok ⟨n, true⟩ → back = []
  cancelled : sink.cancelled = true → reading.sink = sink
  willing : sink.Willing → reading.sink.Willing ∧ ∃ n, reading.outcome = .ok ⟨n, true⟩

/-- **A reading goes on where the reader stands**, whatever the sink does. -/
theorem Consumed.read (hp : settings.Plain) {events : List Event} {front back : Bytes}
    (h : r.Consumed settings events front back)
    (hshort : Lines.Short settings.maxLogSize (front ++ back)) {fs : FileSystem}
    (ho : fs.openPath r.path = .ok (.file (front ++ back)))
    (hd : settings.deleteAfterRead = true) (sink : Sink) :
    ∃ front' back', Consumes settings r sink events (front ++ back) front' back'
      (r.readToEnd settings fs sink) := by
  have hdrop : (front ++ back).drop r.offset = back := by rw [h.offset, List.drop_left]
  have hle : r.offset ≤ (front ++ back).length := by
    rw [h.offset, List.length_append]
    omega
  obtain ⟨more, left, hmore⟩ := proceeds_readOpened hp.lined (hshort.drop r.offset) sink true
  have hsplit : back = more ++ left := hdrop.symm.trans hmore.split
  obtain ⟨htokens, hended⟩ := tokens_further h.ended hsplit hmore.ended
  have hwhole : front ++ back = (front ++ more) ++ left := by rw [hsplit, List.append_assoc]
  have hoffset : (r.readOpened settings sink (.file (front ++ back)) true).reader.offset =
      (front ++ more).length := by
    rw [List.length_append, ← h.offset]
    exact congrArg Reader.offset hmore.reader
  have hread : r.readToEnd settings fs sink =
      r.readOpened settings sink (.file (front ++ back)) true := by
    rw [readToEnd, hd]
    exact read_of_openPath ho hle sink true
  rw [hread]
  refine ⟨front ++ more, left, hwhole, ?_, ⟨hended, hoffset, ?_, ?_⟩, ?_, fun n hn => ?_,
    fun hc => sink_of_cancelled hc _ _, fun hw => ⟨(hmore.willing hw).1, ?_⟩⟩
  · rw [hmore.accepted]
    exact List.prefix_append _ _
  · have hfixed := HeaderState.meet_of_none hp.header r.header
    rw [hmore.accepted, List.drop_left, List.map_append, h.events, htokens, List.map_append,
      HeaderState.events_of_fixed hfixed, List.map_map]
    rfl
  · rw [← hwhole, hmore.fingerprint h.fingerprint, h.fingerprint]
  · rw [hmore.reader]
  · have hend := offset_of_reachedEnd hn
    rw [hoffset, hwhole] at hend
    exact List.length_eq_zero_iff.mp (by simpa [FileSystem.Opened.size] using hend)
  · obtain ⟨n, hn⟩ := outcome_of_willing hp.lined r (front ++ back) hw true
    have hend : (front ++ more).length = (front ++ back).length := by
      rw [hwhole, hmore.whole hw (.inl rfl), List.append_nil]
    rw [hoffset, hend, beq_self_eq_true] at hn
    exact ⟨n, hn⟩

end Reader

end LogFollow
