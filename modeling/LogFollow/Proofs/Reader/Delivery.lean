import LogFollow.Proofs.Decoder
import LogFollow.Proofs.Header
import LogFollow.Proofs.Scanner.Lines

/-!
# What a reading delivers

A reading cuts what stands behind the offset of its reader into items, and offers the tokens among
them to its sink, one after another. `Session.run` does this over a list of items, without a scanner.
Whatever the sink does, the accepted events are those of a beginning of the items, and the reader
stands just behind it; its header has met at most the first of the tokens that are left. Items are left
only if the sink is cancelled or turns a token away. For files without a header `Accepts` says the same,
with an event for each token.
-/
namespace LogFollow

/-! ## Decoding -/

namespace Text.Utf8

/-- A byte completes a character or leaves a sequence open. -/
theorem step_opens (p : Pending) (b : UInt8) :
    (automaton.step p b).1 ≠ [] ∨ (automaton.step p b).2 ≠ .none := by
  have hl : (stepLead b).1 ≠ [] ∨ (stepLead b).2 ≠ .none := by
    unfold stepLead
    split
    · simp
    · next hne _ => exact .inr hne
    · simp
  cases p with
  | none => exact hl
  | some lo hi missing value =>
    simp only [automaton]
    split
    · split <;> simp
    · simp

theorem runFrom_ne_nil (bytes : Bytes) (p : Pending) (done : List Char)
    (h : done ≠ [] ∨ p ≠ .none) : automaton.runFrom p done bytes ≠ [] := by
  induction bytes generalizing p done with
  | nil =>
    rw [Automaton.runFrom, ne_eq, List.append_eq_nil_iff, List.reverse_eq_nil_iff]
    rintro ⟨hd, hf⟩
    rcases h with h | h
    · exact h hd
    · cases p with
      | none => exact h rfl
      | some lo hi missing value => cases hf
  | cons b bytes ih =>
    apply ih
    rcases step_opens p b with hb | hb
    · exact .inl (by simp [hb])
    · exact .inr hb

/-- The text of some bytes is not empty. -/
theorem decode_ne_empty {bytes : Bytes} (h : bytes ≠ []) : decode bytes ≠ "" := by
  obtain ⟨b, rest, rfl⟩ := List.exists_cons_of_ne_nil h
  rw [decode, ne_eq, String.ofList_eq_empty_iff]
  change automaton.runFrom (automaton.step .none b).2
    ((automaton.step .none b).1.reverse ++ []) rest ≠ []
  apply runFrom_ne_nil
  rcases step_opens .none b with hb | hb
  · exact .inl (by simpa using hb)
  · exact .inr hb

end Text.Utf8
/-- In UTF-8 only the empty token has an empty body. -/
theorem Encoding.body_utf8_eq_iff (token : Bytes) :
    body (.charset .utf8) token = body (.charset .utf8) [] ↔ token = [] := by
  constructor
  · intro h
    by_contra hne
    exact Text.Utf8.decode_ne_empty hne (Body.text.inj h)
  · rintro rfl
    rfl

/-! ## Sinks -/

namespace Sink

/-- Nothing stops the reading. -/
structure Goes (s : Sink) : Prop where
  never : ∀ n, s.reaction n ≠ .acceptAndCancel
  goes : s.cancelled = false
  uninterrupted : ∀ n, s.interrupts n = false

/-- The sink accepts whatever is offered, and reading goes on. -/
structure Willing (s : Sink) : Prop where
  accepts : ∀ n, s.reaction n = .accept
  goes : s.cancelled = false
  uninterrupted : ∀ n, s.interrupts n = false

theorem healthy_willing : healthy.Willing := ⟨fun _ => rfl, rfl, fun _ => rfl⟩

theorem Willing.toGoes {s : Sink} (h : s.Willing) : s.Goes := by
  refine ⟨fun n => ?_, h.goes, h.uninterrupted⟩
  rw [h.accepts n]
  exact nofun

theorem look_of_cancelled {s : Sink} (h : s.cancelled = true) : s.look = (true, s) := if_pos h

theorem Goes.look {s : Sink} (h : s.Goes) : s.look = (false, { s with looks := s.looks + 1 }) := by
  unfold Sink.look
  rw [if_neg (Bool.eq_false_iff.mp h.goes), h.uninterrupted, ← h.goes]

@[simp] theorem accepted_look (s : Sink) : s.look.2.accepted = s.accepted := by
  unfold look
  split <;> rfl

@[simp] theorem offered_look (s : Sink) : s.look.2.offered = s.offered := by
  unfold look
  split <;> rfl

/-- A sink that was found to be cancelled stays so. -/
theorem cancelled_look (s : Sink) : s.look.2.cancelled = s.look.1 := by
  unfold look
  split
  · assumption
  · rfl

/-- An offered event is accepted or not, and no event is lost. -/
theorem offer_spec (s : Sink) (e : Event) :
    ((s.offer e).1 = .accepted ∧ (s.offer e).2.accepted = s.accepted ++ [e]) ∨
      ((s.offer e).1 ≠ .accepted ∧ (s.offer e).2.accepted = s.accepted ∧ ¬ s.Willing) := by
  unfold offer
  cases h : s.reaction s.offered with
  | accept => exact .inl ⟨rfl, rfl⟩
  | acceptAndCancel => exact .inl ⟨rfl, rfl⟩
  | refuse =>
    refine .inr ⟨by simp, rfl, fun hw => ?_⟩
    rw [hw.accepts] at h
    cases h
  | breakDown message =>
    refine .inr ⟨by simp, rfl, fun hw => ?_⟩
    rw [hw.accepts] at h
    cases h

theorem offered_offer (s : Sink) (e : Event) : (s.offer e).2.offered = s.offered + 1 := by
  unfold offer
  cases s.reaction s.offered <;> rfl

/-- From one sink to another all that it will do stays the same, and where nothing stops the reading
nothing has. -/
structure Leads (s t : Sink) : Prop where
  reaction : t.reaction = s.reaction
  interrupts : t.interrupts = s.interrupts
  goes : s.Goes → t.cancelled = false

theorem Leads.toGoes {s t : Sink} (h : s.Leads t) (hg : s.Goes) : t.Goes :=
  ⟨h.reaction ▸ hg.never, h.goes hg, h.interrupts ▸ hg.uninterrupted⟩

theorem Leads.refl (s : Sink) : s.Leads s := ⟨rfl, rfl, Goes.goes⟩

theorem Leads.trans {s t u : Sink} (h : s.Leads t) (h' : t.Leads u) : s.Leads u :=
  ⟨h'.reaction.trans h.reaction, h'.interrupts.trans h.interrupts, fun hg => h'.goes (h.toGoes hg)⟩

theorem Leads.willing {s t : Sink} (h : s.Leads t) (hw : s.Willing) : t.Willing :=
  ⟨h.reaction ▸ hw.accepts, h.goes hw.toGoes, h.interrupts ▸ hw.uninterrupted⟩

theorem leads_offer (s : Sink) (e : Event) : s.Leads (s.offer e).2 := by
  unfold offer
  cases h : s.reaction s.offered with
  | accept => exact ⟨rfl, rfl, Goes.goes⟩
  | acceptAndCancel => exact ⟨rfl, rfl, fun hg => absurd h (hg.never _)⟩
  | refuse => exact ⟨rfl, rfl, Goes.goes⟩
  | breakDown message => exact ⟨rfl, rfl, Goes.goes⟩

theorem leads_look (s : Sink) : s.Leads s.look.2 := by
  have hgoes : s.Goes → s.look.2.cancelled = false := fun hg => by
    rw [cancelled_look, hg.look]
  unfold look at hgoes ⊢
  split
  · exact .refl s
  · next hc =>
    rw [if_neg hc] at hgoes
    exact ⟨rfl, rfl, hgoes⟩

end Sink

/-! ## Tokens that are met -/

namespace HeaderState

/-- From one header and sink to others, the tokens have been met, and behind them at most one more: it is
the first of those that are left, and no header line, and the sink has turned it away. Of the tokens that
were met just those behind the header were offered. -/
structure Meets (settings : ReadSettings) (file : Attributes) (h : HeaderState) (sink : Sink)
    (tokens left : List Bytes) (refused : Option Bytes) (h' : HeaderState) (sink' : Sink) : Prop where
  header : h' = h.past settings (tokens ++ refused.toList)
  offered : sink'.offered =
    sink.offered + (h.events settings file (tokens ++ refused.toList)).length
  first : ∀ token ∈ refused, ∃ rest, left = token :: rest
  behind : ∀ token ∈ refused, ((h.past settings tokens).meet settings token).1 = false
  willing : sink.Willing → refused = none

variable {settings : ReadSettings} {file : Attributes} {h h' h'' : HeaderState}
  {sink sink' sink'' : Sink} {tokens more left : List Bytes} {refused refused' : Option Bytes}

/-- No token is turned away. -/
theorem Meets.of_passed (hheader : h' = h.past settings tokens)
    (hoffered : sink'.offered = sink.offered + (h.events settings file tokens).length)
    (left : List Bytes) : Meets settings file h sink tokens left none h' sink' := by
  refine ⟨?_, ?_, nofun, nofun, fun _ => rfl⟩
  · rwa [Option.toList_none, List.append_nil]
  · rwa [Option.toList_none, List.append_nil]

theorem Meets.nothing (settings : ReadSettings) (file : Attributes) (h : HeaderState) (sink : Sink)
    (left : List Bytes) : Meets settings file h sink [] left none h sink := .of_passed rfl rfl left

theorem Meets.append_right (hm : Meets settings file h sink tokens left refused h' sink')
    (more : List Bytes) : Meets settings file h sink tokens (left ++ more) refused h' sink' := by
  refine ⟨hm.header, hm.offered, fun token ht => ?_, hm.behind, hm.willing⟩
  obtain ⟨rest, rfl⟩ := hm.first token ht
  exact ⟨rest ++ more, rfl⟩

/-- Where no token is left, none was turned away. -/
theorem Meets.eq_none (hm : Meets settings file h sink tokens [] refused h' sink') :
    refused = none := by
  cases refused with
  | none => rfl
  | some token =>
    obtain ⟨rest, hnil⟩ := hm.first token rfl
    cases hnil

theorem Meets.trans (hm : Meets settings file h sink tokens [] refused h' sink')
    (hw : sink.Willing → sink'.Willing)
    (hm' : Meets settings file h' sink' more left refused' h'' sink'') :
    Meets settings file h sink (tokens ++ more) left refused' h'' sink'' := by
  obtain rfl := hm.eq_none
  have hheader := hm.header
  have hoffered := hm.offered
  rw [Option.toList_none, List.append_nil] at hheader hoffered
  refine ⟨?_, ?_, hm'.first, fun token ht => ?_, fun h => hm'.willing (hw h)⟩
  · rw [hm'.header, hheader, ← past_append, List.append_assoc]
  · rw [hm'.offered, hoffered, hheader, List.append_assoc tokens, events_append tokens,
      List.length_append, Nat.add_assoc]
  · rw [past_append, ← hheader]
    exact hm'.behind token ht

/-- Reading does not go on behind these tokens: the sink is cancelled, or more events were offered to it
than those of the tokens. -/
def Stops (settings : ReadSettings) (file : Attributes) (h : HeaderState) (sink : Sink)
    (tokens : List Bytes) (sink' : Sink) : Prop :=
  sink'.cancelled = true ∨ sink.offered + (h.events settings file tokens).length < sink'.offered

/-- Where the sink is not cancelled, a token was turned away. -/
theorem Meets.refused_of_stops (hm : Meets settings file h sink tokens left refused h' sink')
    (hs : h.Stops settings file sink tokens sink') (hg : sink'.Goes) : refused ≠ none := by
  rintro rfl
  have hoffered := hm.offered
  rw [Option.toList_none, List.append_nil] at hoffered
  rcases hs with hc | hmore
  · rw [hg.goes] at hc
    cases hc
  · omega

theorem Meets.stops_append (hm : Meets settings file h sink tokens [] refused h' sink')
    (hs : h'.Stops settings file sink' more sink'') :
    h.Stops settings file sink (tokens ++ more) sink'' := by
  obtain rfl := hm.eq_none
  have hheader := hm.header
  have hoffered := hm.offered
  rw [Option.toList_none, List.append_nil] at hheader hoffered
  refine hs.imp_right fun hmore => ?_
  rw [events_append, List.length_append, ← hheader]
  omega

theorem Meets.awaits (hm : Meets settings file h sink tokens left refused h' sink') :
    (h.past settings tokens).Awaits settings left h' := by
  have hheader := hm.header
  cases refused with
  | none =>
    rw [Option.toList_none, List.append_nil] at hheader
    rw [hheader]
    exact .same
  | some token =>
    obtain ⟨rest, rfl⟩ := hm.first token rfl
    rw [past_append] at hheader
    refine .ended rfl (Prod.ext (hm.behind token rfl) ?_)
    exact hheader.symm

end HeaderState

/-! ## Items -/

namespace Lines

/-- The bytes that an event is made of, in a list; there are none for an empty token. -/
def text : Scanned → List Bytes
  | .token bytes => if bytes = [] then [] else [bytes]
  | .oversized _ => []

/-- The texts of items. -/
def texts (items : List (Scanned × Nat)) : List Bytes := items.flatMap fun item => text item.1

/-- The place behind the last of the items. -/
def stop : Nat → List (Scanned × Nat) → Nat
  | place, [] => place
  | _, (_, place) :: rest => stop place rest

theorem texts_cons (item : Scanned) (place : Nat) (rest : List (Scanned × Nat)) :
    texts ((item, place) :: rest) = text item ++ texts rest := rfl

theorem length_reports_le (m : Nat) (last : Bytes) (lines : List Bytes) (place : Nat) :
    (reports m place lines last).length ≤ lines.length + last.length := by
  induction lines generalizing place with
  | nil =>
    unfold reports
    split
    · rw [List.length_singleton, List.length_nil]
      omega
    · exact Nat.zero_le _
  | cons line lines ih =>
    have h := ih (place + line.length + 1)
    rw [reports, List.length_cons, List.length_cons]
    omega

theorem length_whole_add_tail_le (data : Bytes) :
    (whole data).length + (tail data).length ≤ data.length := by
  induction data using induct with
  | unended data h =>
    rw [whole_of_notMem h, tail_of_notMem h, List.length_nil]
    omega
  | line l rest h ih =>
    rw [whole_line h, tail_line h, List.length_cons, List.length_append, List.length_cons]
    omega

/-- There are no more items than bytes. -/
theorem length_items_le (m place : Nat) (data : Bytes) :
    (items m place data).length ≤ data.length :=
  Nat.le_trans (length_reports_le m (tail data) (whole data) place) (length_whole_add_tail_le data)

end Lines

/-! ## A run over items -/

namespace Session

/-- Delivers items, each with the place behind it, until the sink stops that. -/
def run (settings : ReadSettings) : Bool → List (Scanned × Nat) → Session → Ending × Session
  | framed, [], s => if s.sink.look.1 then (.stopped, s.looked) else (.exhausted framed, s.looked)
  | _, item :: rest, s =>
    if s.sink.look.1 then (.stopped, s.looked)
    else
      match item.1 with
      | .oversized _ => run settings true rest (s.looked.advance item.2)
      | .token token =>
        match s.looked.emit settings token with
        | (.error e, s) => (.failed e, s)
        | (.ok (), s) => run settings true rest (s.advance item.2)

/-- Delivering from a scanner is running over its items, if it meets no failure. -/
theorem deliver_eq_run (settings : ReadSettings) {scanner t : Scanner}
    {items : List (Scanned × Nat)} (h : Scanner.Drains scanner items [] t) {fuel : Nat}
    (hf : items.length < fuel) (framed : Bool) (s : Session) :
    ∃ u, deliver settings fuel framed scanner s =
        ((run settings framed items s).1, u, (run settings framed items s).2) ∧
      ∀ f, (run settings framed items s).1 = .exhausted f → u = t := by
  generalize hn : ([] : List IoError) = failures at h
  induction h generalizing fuel framed s with
  | exhausted hnext =>
    obtain ⟨fuel, rfl⟩ := Nat.exists_eq_add_one_of_ne_zero (by omega : fuel ≠ 0)
    rw [deliver, run]
    split
    · exact ⟨_, rfl, fun f hf => nomatch hf⟩
    · rw [hnext]
      exact ⟨_, rfl, fun _ _ => rfl⟩
  | @found scanner t u item items failures hnext _ ih =>
    obtain ⟨fuel, rfl⟩ := Nat.exists_eq_add_one_of_ne_zero (by omega : fuel ≠ 0)
    have hl : items.length < fuel := by
      rw [List.length_cons] at hf
      omega
    rw [deliver, run]
    split
    · exact ⟨_, rfl, fun f hf => nomatch hf⟩
    · rw [hnext]
      cases item with
      | oversized size => exact ih hl true (s.looked.advance t.position) hn
      | token token =>
        simp only
        rcases s.looked.emit settings token with ⟨_ | _, s'⟩
        · exact ⟨_, rfl, fun f hf => nomatch hf⟩
        · exact ih hl true (s'.advance t.position) hn
  | failed _ _ _ => cases hn

/-- The event of a token. -/
def event (settings : ReadSettings) (r : Reader) (token : Bytes) : Event :=
  eventOf r (settings.encoding.body token)

/-- From `s` to `t` the sink has accepted the events of these tokens, in order, and none of the tokens
`left`. The reader stands at a place, and but for its header is otherwise what it was. -/
structure Passes (settings : ReadSettings) (s : Session) (tokens left : List Bytes) (place : Nat)
    (t : Session) : Prop where
  accepted : t.sink.accepted = s.sink.accepted ++
    s.reader.header.events settings s.reader.fileAttributes tokens
  meets : ∃ refused, HeaderState.Meets settings s.reader.fileAttributes s.reader.header s.sink tokens
    left refused t.reader.header t.sink
  reader : t.reader = { s.reader with offset := place, header := t.reader.header }
  decoder : t.decoder.encoding = s.decoder.encoding
  leads : s.sink.Leads t.sink

variable {settings : ReadSettings} {s t u : Session} {tokens before after left : List Bytes}
  {p q : Nat}

theorem Passes.willing (h : Passes settings s tokens left p t) (hw : s.sink.Willing) :
    t.sink.Willing := h.leads.willing hw

theorem Passes.header (h : Passes settings s tokens left p t) :
    (s.reader.header.past settings tokens).Awaits settings left t.reader.header := by
  obtain ⟨refused, hm⟩ := h.meets
  exact hm.awaits

theorem Passes.refl (settings : ReadSettings) (s : Session) (left : List Bytes) :
    Passes settings s [] left s.reader.offset s :=
  ⟨(List.append_nil _).symm, ⟨none, .nothing _ _ _ _ _⟩, rfl, rfl, .refl s.sink⟩

theorem Passes.looked (settings : ReadSettings) (s : Session) (left : List Bytes) :
    Passes settings s [] left s.reader.offset s.looked :=
  ⟨(Sink.accepted_look _).trans (List.append_nil _).symm,
    ⟨none, .of_passed rfl (Sink.offered_look _) left⟩, rfl, rfl, s.sink.leads_look⟩

theorem Passes.advance (h : Passes settings s tokens left p t) (q : Nat) :
    Passes settings s tokens left q (t.advance q) :=
  ⟨h.accepted, h.meets, by rw [Session.advance, h.reader], h.decoder, h.leads⟩

theorem Passes.append_right (h : Passes settings s tokens left p t) (more : List Bytes) :
    Passes settings s tokens (left ++ more) p t := by
  obtain ⟨refused, hm⟩ := h.meets
  exact ⟨h.accepted, ⟨refused, hm.append_right more⟩, h.reader, h.decoder, h.leads⟩

theorem Passes.trans (h : Passes settings s before [] p t) (h' : Passes settings t after left q u) :
    Passes settings s (before ++ after) left q u := by
  have hheader := h.header.eq_of_nil
  have hfile : t.reader.fileAttributes = s.reader.fileAttributes := by rw [h.reader]
  refine ⟨?_, ?_, ?_, h'.decoder.trans h.decoder, h.leads.trans h'.leads⟩
  · rw [h'.accepted, h.accepted, HeaderState.events_append, List.append_assoc, hheader, hfile]
  · obtain ⟨_, hm⟩ := h.meets
    obtain ⟨refused, hm'⟩ := h'.meets
    rw [hfile] at hm'
    exact ⟨refused, hm.trans h.willing hm'⟩
  · rw [h'.reader, h.reader]

/-- Behind an item that is passed, others are. -/
theorem Passes.cons {item : Scanned × Nat} {done rest : List (Scanned × Nat)}
    (h : Passes settings s (Lines.text item.1) [] item.2 t)
    (h' : Passes settings t (Lines.texts done) (Lines.texts rest) (Lines.stop t.reader.offset done) u) :
    Passes settings s (Lines.texts (item :: done)) (Lines.texts rest)
      (Lines.stop s.reader.offset (item :: done)) u := by
  have hplace : t.reader.offset = item.2 := by rw [h.reader]
  have htrans := h.trans h'
  rwa [hplace] at htrans

/-- Behind these tokens the sink of the session puts an end to the reading. -/
def Stops (settings : ReadSettings) (s : Session) (tokens : List Bytes) (t : Session) : Prop :=
  s.reader.header.Stops settings s.reader.fileAttributes s.sink tokens t.sink

theorem Passes.not_stops (h : Passes settings s tokens left p t) (hw : s.sink.Willing) :
    ¬ s.Stops settings tokens t := by
  obtain ⟨refused, hm⟩ := h.meets
  exact fun hs => hm.refused_of_stops hs (h.willing hw).toGoes (hm.willing hw)

theorem Passes.stops_append (h : Passes settings s before [] p t)
    (hs : t.Stops settings after u) : s.Stops settings (before ++ after) u := by
  obtain ⟨refused, hm⟩ := h.meets
  have hfile : t.reader.fileAttributes = s.reader.fileAttributes := by rw [h.reader]
  rw [Stops, hfile] at hs
  exact hm.stops_append hs

/-- What becomes of a token: it is passed, or there is an error and nothing else. -/
inductive Emits (settings : ReadSettings) (s : Session) (token : Bytes) :
    Except Error Unit × Session → Prop
  | passed {t : Session} : Passes settings s (Lines.text (.token token)) [] s.reader.offset t →
      Emits settings s token (.ok (), t)
  | rejected {t : Session} (e : Error) :
      Passes settings s [] (Lines.text (.token token)) s.reader.offset t → s.Stops settings [] t →
      Emits settings s token (.error e, t)

/-- The session looks for a header line as the header of its reader does. -/
theorem takeHeader_eq (settings : ReadSettings) (s : Session) (token : Bytes) :
    s.takeHeader settings (settings.encoding.body token) =
      ((s.reader.header.meet settings token).1,
        { s with reader.header := (s.reader.header.meet settings token).2 }) := by
  unfold takeHeader HeaderState.meet
  cases hr : settings.header with
  | none => rfl
  | some rule =>
    cases hs : s.reader.header with
    | done attributes =>
      simp only
      rw [← hs]
    | reading found =>
      simp only
      cases rule.extract? (lineOf (settings.encoding.body token)) found <;> rfl

/-- The event that a token has behind the header, once it is met. -/
theorem eventOf_eq (settings : ReadSettings) (s : Session) (h : HeaderState) (token : Bytes) :
    eventOf { s.reader with header := h } (settings.encoding.body token) =
      h.event settings s.reader.fileAttributes token := rfl

theorem emits (hd : s.decoder.encoding = settings.encoding) (token : Bytes) :
    Emits settings s token (s.emit settings token) := by
  unfold emit
  by_cases ht : token = []
  · subst ht
    exact .passed (.refl settings s [])
  · have he : token.isEmpty = false := by simpa using ht
    have htext : Lines.text (.token token) = [token] := if_neg ht
    obtain ⟨hb, hn⟩ := s.decoder.decode_eq token
    simp only [he, Bool.false_eq_true, if_false, hb, hd, takeHeader_eq, eventOf_eq]
    rcases hm : s.reader.header.meet settings token with ⟨_ | _, h⟩
    · -- the token is behind the header
      have hs := s.sink.offer_spec (h.event settings s.reader.fileAttributes token)
      have hoffered := s.sink.offered_offer (h.event settings s.reader.fileAttributes token)
      have hsink := s.sink.leads_offer (h.event settings s.reader.fileAttributes token)
      have hevents : s.reader.header.events settings s.reader.fileAttributes [token] =
          [h.event settings s.reader.fileAttributes token] := HeaderState.events_delivered hm []
      have hpast : s.reader.header.past settings [token] = h := congrArg Prod.snd hm
      generalize s.sink.offer (h.event settings s.reader.fileAttributes token) = r
        at hs hoffered hsink
      obtain ⟨offer, sink⟩ := r
      have hmet : sink.offered = s.sink.offered +
          (s.reader.header.events settings s.reader.fileAttributes [token]).length := by
        rw [hevents]
        exact hoffered
      have hrejected : offer ≠ .accepted → ∀ e, Emits settings s token
          (.error e, { s with reader.header := h, decoder := (s.decoder.decode token).2, sink }) := by
        intro hne e
        rcases hs with ⟨ha, -⟩ | ⟨-, ha, hw⟩
        · exact absurd ha hne
        · refine .rejected e
            ⟨?_, ⟨some token, hpast.symm, hmet, ?_, ?_, fun h => absurd h hw⟩, rfl, hn, hsink⟩ (.inr ?_)
          · rw [HeaderState.events, List.append_nil]
            exact ha
          · intro other ho
            obtain rfl := Option.mem_some.mp ho
            exact ⟨[], htext⟩
          · intro other ho
            obtain rfl := Option.mem_some.mp ho
            exact congrArg Prod.fst hm
          · show s.sink.offered + 0 < sink.offered
            rw [hoffered]
            omega
      cases offer with
      | accepted =>
        rcases hs with ⟨-, ha⟩ | ⟨hne, -⟩
        · rw [← htext] at hevents hpast hmet
          refine .passed ⟨?_, ⟨none, .of_passed hpast.symm hmet []⟩, rfl, hn, hsink⟩
          rw [hevents]
          exact ha
        · exact absurd rfl hne
      | refused => exact hrejected (by simp) _
      | broken message => exact hrejected (by simp) _
    · -- the token is a header line
      have hevents : s.reader.header.events settings s.reader.fileAttributes [token] = [] :=
        HeaderState.events_headerLine hm []
      have hpast : s.reader.header.past settings [token] = h := congrArg Prod.snd hm
      rw [← htext] at hevents hpast
      refine .passed ⟨?_, ⟨none, .of_passed hpast.symm ?_ []⟩, rfl, hn, .refl s.sink⟩
      · rw [hevents, List.append_nil]
      · rw [hevents, List.length_nil, Nat.add_zero]

/-- What a run over items does: the tokens of a beginning of the items are passed, and the reader
stands behind it. This is all of them, and the run goes to its end, unless the sink puts an end to it. -/
structure Runs (settings : ReadSettings) (framed : Bool) (items : List (Scanned × Nat))
    (s : Session) (r : Ending × Session) : Prop where
  passes : ∃ done rest, items = done ++ rest ∧
    Passes settings s (Lines.texts done) (Lines.texts rest) (Lines.stop s.reader.offset done) r.2 ∧
    (s.Stops settings (Lines.texts done) r.2 ∨ r.1 = .exhausted (framed || !items.isEmpty)) ∧
    ∀ f, r.1 = .exhausted f → rest = []
  ends : ∀ f, r.1 = .exhausted f → f = (framed || !items.isEmpty)

theorem Runs.willing {framed : Bool} {items : List (Scanned × Nat)} {r : Ending × Session}
    (h : Runs settings framed items s r) (hw : s.sink.Willing) :
    r.1 = .exhausted (framed || !items.isEmpty) := by
  obtain ⟨_, _, _, hp, hends, _⟩ := h.passes
  exact hends.resolve_left (hp.not_stops hw)

/-- The run stops before the first of the items. -/
theorem Runs.halted {framed : Bool} {items : List (Scanned × Nat)} {e : Ending} {t : Session}
    (h : Passes settings s [] (Lines.texts items) s.reader.offset t)
    (he : ∀ f, e ≠ .exhausted f) (hs : s.Stops settings [] t) :
    Runs settings framed items s (e, t) :=
  ⟨⟨[], items, rfl, h, .inl hs, fun f hf => absurd hf (he f)⟩, fun f hf => absurd hf (he f)⟩

/-- The run gets past the first of the items. -/
theorem Runs.cons {framed : Bool} {item : Scanned × Nat} {rest : List (Scanned × Nat)}
    {r : Ending × Session} (h : Passes settings s (Lines.text item.1) [] item.2 t)
    (hr : Runs settings true rest t r) : Runs settings framed (item :: rest) s r := by
  obtain ⟨⟨done, left, hitems, ha, hstops, hall⟩, hends⟩ := hr
  refine ⟨⟨item :: done, left, by rw [hitems, List.cons_append], h.cons ha, ?_, hall⟩, ?_⟩
  · refine hstops.imp h.stops_append fun hend => ?_
    rw [hend]
    simp
  · intro f hf
    rw [hends f hf]
    simp

theorem runs (framed : Bool) (items : List (Scanned × Nat))
    (hd : s.decoder.encoding = settings.encoding) :
    Runs settings framed items s (run settings framed items s) := by
  induction items generalizing framed s with
  | nil =>
    have hlooked := Passes.looked settings s []
    unfold run
    split
    · next hc =>
      exact .halted hlooked (by simp) (.inl ((Sink.cancelled_look _).trans hc))
    · refine ⟨⟨[], [], rfl, hlooked, .inr (by simp), fun _ _ => rfl⟩, ?_⟩
      intro f hf
      simpa using hf.symm
  | cons item rest ih =>
    have hlooked := Passes.looked settings s []
    unfold run
    split
    · next hc =>
      exact .halted (hlooked.append_right _) (by simp) (.inl ((Sink.cancelled_look _).trans hc))
    · obtain ⟨item, place⟩ := item
      cases item with
      | oversized size => exact .cons (hlooked.advance place) (ih true hd)
      | token token =>
        have he := emits (s := s.looked) hd token
        simp only
        generalize s.looked.emit settings token = r at he
        cases he with
        | passed ha =>
          exact .cons ((hlooked.trans ha).advance place) (ih true (ha.decoder.trans hd))
        | rejected e ha hs =>
          exact .halted ((hlooked.trans ha).append_right (Lines.texts rest)) (by simp)
            (hlooked.stops_append hs)

/-! ## Without a header -/

/-- From `s` to `t` the sink has accepted the events of these texts, in order. The reader stands at a
place, and is otherwise what it was. -/
structure Accepts (settings : ReadSettings) (s : Session) (texts : List Bytes) (place : Nat)
    (t : Session) : Prop where
  accepted : t.sink.accepted = s.sink.accepted ++ texts.map (event settings s.reader)
  reader : t.reader = { s.reader with offset := place }
  decoder : t.decoder.encoding = s.decoder.encoding
  willing : s.sink.Willing → t.sink.Willing

/-- Where no header is looked for, each token that is passed has its event. -/
theorem Passes.accepts (hh : settings.header = none) (h : Passes settings s tokens left p t) :
    Accepts settings s tokens p t := by
  have hf := HeaderState.meet_of_none hh s.reader.header
  have hheader : t.reader.header = s.reader.header := by
    have ha := h.header
    rw [HeaderState.past_of_fixed hf] at ha
    exact ha.eq_of_fixed hf
  refine ⟨?_, ?_, h.decoder, h.willing⟩
  · rw [h.accepted, HeaderState.events_of_fixed hf]
    rfl
  · rw [h.reader, hheader]

theorem Accepts.trans (h : Accepts settings s before p t) (h' : Accepts settings t after q u) :
    Accepts settings s (before ++ after) q u := by
  refine ⟨?_, ?_, h'.decoder.trans h.decoder, fun hw => h'.willing (h.willing hw)⟩
  · rw [h'.accepted, h.accepted, h.reader, List.map_append, List.append_assoc]
    rfl
  · rw [h'.reader, h.reader]

end Session

end LogFollow
