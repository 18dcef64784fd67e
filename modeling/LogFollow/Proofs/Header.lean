import LogFollow.Reader.Read
import Mathlib.Tactic.Common

/-!
# The header of a file, token by token

`HeaderState.meet` says what a header makes of the next token: it takes it for one of its lines, or it
ends there. The events of a list of tokens follow from this alone. A header that has met a token
without the token being delivered goes on as if it had not (`Awaits.events`), and the header of a file
that is read from its beginning leaves out just the leading header lines (`events_initial`). So it does
if some tokens are turned away and met again, perhaps in another form (`Hears.of_reading`).
-/
namespace LogFollow

/-! ## Attributes -/

namespace Attributes

/-- The value that a key has in a list of pairs; of two pairs with one key, the later one counts. -/
def lastValue? (pairs : List (String × String)) (key : String) : Option String :=
  (pairs.reverse.find? (·.1 == key)).map (·.2)

theorem lastValue?_cons (pair : String × String) (rest : List (String × String)) (key : String) :
    lastValue? (pair :: rest) key =
      (lastValue? rest key).or (if pair.1 = key then some pair.2 else none) := by
  rw [lastValue?, List.reverse_cons, List.find?_append, Option.map_or, lastValue?]
  by_cases hk : pair.1 = key <;> simp [hk]

theorem get?_insert (a : Attributes) (key value other : String) :
    (a.insert key value).get? other = if key = other then some value else a.get? other := by
  obtain ⟨entries, increasing⟩ := a
  simp only [get?, insert]
  clear increasing
  induction entries with
  | nil => by_cases hk : key = other <;> simp [insertPair, hk]
  | cons pair rest ih =>
    unfold insertPair
    split
    · by_cases hk : key = other <;> simp [hk]
    · split
      · next heq =>
        by_cases hk : key = other
        · simp [hk]
        · simp [hk, ← heq]
      · next hne =>
        by_cases ho : pair.1 = other
        · have hk : key ≠ other := fun h => hne (h.trans ho.symm)
          simp [ho, hk]
        · rw [List.find?_cons_of_neg (by simpa using ho), List.find?_cons_of_neg (by simpa using ho)]
          exact ih

theorem get?_foldl_insert (a : Attributes) (pairs : List (String × String)) (key : String) :
    (pairs.foldl (fun a pair => a.insert pair.1 pair.2) a).get? key =
      (lastValue? pairs key).or (a.get? key) := by
  induction pairs generalizing a with
  | nil => rfl
  | cons pair rest ih =>
    rw [List.foldl_cons, ih, get?_insert, lastValue?_cons, Option.or_assoc]
    by_cases hk : pair.1 = key <;> simp [hk]

theorem get?_ofList (pairs : List (String × String)) (key : String) :
    (ofList pairs).get? key = lastValue? pairs key := by
  rw [ofList, get?_foldl_insert]
  exact Option.or_none

/-- A map gives each key just one value. -/
theorem lastValue?_entries (a : Attributes) (key : String) : lastValue? a.entries key = a.get? key := by
  obtain ⟨entries, increasing⟩ := a
  rw [get?]
  induction entries with
  | nil => rfl
  | cons pair rest ih =>
    obtain ⟨hlt, hrest⟩ := List.pairwise_cons.mp increasing
    rw [lastValue?_cons, ih hrest]
    by_cases hk : pair.1 = key
    · have hnone : rest.find? (·.1 == key) = none := by
        rw [List.find?_eq_none]
        intro other ho heq
        have hless := hlt other ho
        rw [hk, beq_iff_eq.mp heq] at hless
        exact String.lt_irrefl key hless
      simp [hk, hnone]
    · rw [if_neg hk, Option.or_none, List.find?_cons_of_neg (by simpa using hk)]

theorem insert_ofList (pairs : List (String × String)) (pair : String × String) :
    (ofList pairs).insert pair.1 pair.2 = ofList (pairs ++ [pair]) := by
  rw [ofList, ofList, List.foldl_append]
  rfl

/-- The values of `b` win. -/
theorem get?_override (a b : Attributes) (key : String) :
    (a.override b).get? key = (b.get? key).or (a.get? key) := by
  rw [override, get?_foldl_insert, lastValue?_entries]

end Attributes

/-! ## Tokens -/

namespace HeaderState

/-- What the header makes of a token: whether it is one of its lines, and the header behind it. -/
def meet (settings : ReadSettings) (h : HeaderState) (token : Bytes) : Bool × HeaderState :=
  match settings.header, h with
  | some rule, .reading found =>
    match rule.extract? (Session.lineOf (settings.encoding.body token)) found with
    | some found => (true, .reading found)
    | none => (false, .done found)
  | _, _ => (false, h)

/-- The event of a token behind the header. The attributes of the file win over those of its header. -/
def event (settings : ReadSettings) (file : Attributes) (h : HeaderState) (token : Bytes) : Event :=
  { body := settings.encoding.body token
    attributes := (h.attributes?.getD .empty).override file }

/-- The events of tokens that follow the header. -/
def events (settings : ReadSettings) (file : Attributes) : HeaderState → List Bytes → List Event
  | _, [] => []
  | h, token :: rest =>
    match h.meet settings token with
    | (true, h) => events settings file h rest
    | (false, h) => h.event settings file token :: events settings file h rest

/-- The header behind some tokens. -/
def past (settings : ReadSettings) (h : HeaderState) (tokens : List Bytes) : HeaderState :=
  tokens.foldl (fun h token => (h.meet settings token).2) h

/-- Of the tokens `left` none was delivered: `h'` is `h`, or what has become of it at the first of
them, which is no header line. -/
inductive Awaits (settings : ReadSettings) (left : List Bytes) (h : HeaderState) :
    HeaderState → Prop
  | same : Awaits settings left h h
  | ended {token : Bytes} {rest : List Bytes} {h' : HeaderState} : left = token :: rest →
      h.meet settings token = (false, h') → Awaits settings left h h'

variable {settings : ReadSettings} {file : Attributes} {h h' : HeaderState} {token : Bytes}
  {tokens left more : List Bytes}

/-- A header that has ended takes no token for one of its lines. -/
theorem meet_of_ended (he : h.meet settings token = (false, h')) (other : Bytes) :
    h'.meet settings other = (false, h') := by
  unfold meet at he ⊢
  cases hr : settings.header with
  | none => rfl
  | some rule =>
    rw [hr] at he
    cases h with
    | done attributes =>
      obtain rfl : HeaderState.done attributes = h' := congrArg Prod.snd he
      rfl
    | reading found =>
      simp only at he
      split at he
      · cases he
      · obtain rfl : HeaderState.done found = h' := congrArg Prod.snd he
        rfl

theorem meet_of_none (hn : settings.header = none) (h : HeaderState) (token : Bytes) :
    h.meet settings token = (false, h) := by
  unfold meet
  rw [hn]

theorem meet_done (attributes : Attributes) (token : Bytes) :
    (done attributes).meet settings token = (false, done attributes) := by
  unfold meet
  split
  · next heq => cases heq
  · rfl

theorem events_headerLine (hm : h.meet settings token = (true, h')) (rest : List Bytes) :
    h.events settings file (token :: rest) = h'.events settings file rest := by
  rw [events, hm]

theorem events_delivered (hm : h.meet settings token = (false, h')) (rest : List Bytes) :
    h.events settings file (token :: rest) =
      h'.event settings file token :: h'.events settings file rest := by
  rw [events, hm]

/-- Behind its end the header has no say in the events. -/
theorem events_of_fixed (hf : ∀ token, h.meet settings token = (false, h)) (tokens : List Bytes) :
    h.events settings file tokens = tokens.map (h.event settings file) := by
  induction tokens with
  | nil => rfl
  | cons token rest ih => rw [events_delivered (hf token), ih, List.map_cons]

theorem past_of_fixed (hf : ∀ token, h.meet settings token = (false, h)) (tokens : List Bytes) :
    h.past settings tokens = h := by
  induction tokens with
  | nil => rfl
  | cons token rest ih =>
    rw [past, List.foldl_cons, hf token]
    exact ih

theorem events_append (tokens more : List Bytes) :
    h.events settings file (tokens ++ more) =
      h.events settings file tokens ++ (h.past settings tokens).events settings file more := by
  induction tokens generalizing h with
  | nil => rfl
  | cons token rest ih =>
    rw [List.cons_append, past, List.foldl_cons]
    rcases hm : h.meet settings token with ⟨_ | _, h'⟩
    · rw [events_delivered hm, events_delivered hm, ih, List.cons_append]
      rfl
    · rw [events_headerLine hm, events_headerLine hm]
      exact ih

/-- The attributes of a file have no say in the bodies of its events. -/
theorem map_body_events (settings : ReadSettings) (file file' : Attributes) (h : HeaderState)
    (tokens : List Bytes) :
    (h.events settings file tokens).map (·.body) =
      (h.events settings file' tokens).map (·.body) := by
  induction tokens generalizing h with
  | nil => rfl
  | cons token rest ih =>
    rcases hm : h.meet settings token with ⟨_ | _, h'⟩
    · rw [events_delivered hm, events_delivered hm, List.map_cons, List.map_cons, ih]
      rfl
    · rw [events_headerLine hm, events_headerLine hm, ih]

theorem past_append (tokens more : List Bytes) :
    h.past settings (tokens ++ more) = (h.past settings tokens).past settings more :=
  List.foldl_append

theorem Awaits.eq_of_nil (ha : Awaits settings [] h h') : h' = h := by
  cases ha with
  | same => rfl
  | ended hl hm => cases hl

theorem Awaits.eq_of_fixed (ha : Awaits settings left h h')
    (hf : ∀ token, h.meet settings token = (false, h)) : h' = h := by
  cases ha with
  | same => rfl
  | ended hl hm =>
    rw [hf] at hm
    exact (congrArg Prod.snd hm).symm

theorem Awaits.trans {h'' : HeaderState} (ha : Awaits settings left h h')
    (hb : Awaits settings left h' h'') : Awaits settings left h h'' := by
  cases hb with
  | same => exact ha
  | ended hl hm =>
    cases ha with
    | same => exact .ended hl hm
    | ended hl' hm' =>
      rw [meet_of_ended hm'] at hm
      obtain rfl : h' = h'' := congrArg Prod.snd hm
      exact .ended hl' hm'

/-- A token that was met but not delivered is met again with the same result. -/
theorem Awaits.meet (ha : Awaits settings (token :: left) h h') :
    h'.meet settings token = h.meet settings token := by
  cases ha with
  | same => rfl
  | ended hl hm =>
    obtain ⟨rfl, rfl⟩ := List.cons.inj hl
    rw [hm, meet_of_ended hm]

/-- What was awaited has the events that it had before. -/
theorem Awaits.events (ha : Awaits settings (tokens ++ left) h h') :
    h'.events settings file tokens = h.events settings file tokens := by
  cases tokens with
  | nil => rfl
  | cons token rest => rw [HeaderState.events, HeaderState.events, ha.meet]

theorem Awaits.past (ha : Awaits settings (tokens ++ left) h h') :
    Awaits settings left (h.past settings tokens) (h'.past settings tokens) := by
  cases tokens with
  | nil => exact ha
  | cons token rest =>
    rw [HeaderState.past, HeaderState.past, List.foldl_cons, List.foldl_cons, ha.meet]
    exact .same

end HeaderState

/-! ## Tokens that are turned away -/

/-- A token that a reader has met. One that was turned away stays in front of the reader. -/
structure Met where
  token : Bytes
  passed : Bool
deriving DecidableEq

namespace HeaderState

/-- On the way from one header to another these tokens are met, as many events are offered, and these of
them are accepted. Only behind the header a token is turned away. -/
inductive Hears (settings : ReadSettings) (file : Attributes) :
    HeaderState → List Met → Nat → List Event → HeaderState → Prop
  | nil (h : HeaderState) : Hears settings file h [] 0 [] h
  | line {h h' h'' : HeaderState} {token : Bytes} {rest : List Met} {offers : Nat}
      {events : List Event} : h.meet settings token = (true, h') →
      Hears settings file h' rest offers events h'' →
      Hears settings file h (⟨token, true⟩ :: rest) offers events h''
  | passed {h h' h'' : HeaderState} {token : Bytes} {rest : List Met} {offers : Nat}
      {events : List Event} : h.meet settings token = (false, h') →
      Hears settings file h' rest offers events h'' →
      Hears settings file h (⟨token, true⟩ :: rest) (offers + 1)
        (h'.event settings file token :: events) h''
  | refused {h h' h'' : HeaderState} {token : Bytes} {rest : List Met} {offers : Nat}
      {events : List Event} : h.meet settings token = (false, h') →
      Hears settings file h' rest offers events h'' →
      Hears settings file h (⟨token, false⟩ :: rest) (offers + 1) events h''

namespace Hears

variable {settings : ReadSettings} {file : Attributes} {h h' h'' : HeaderState}
  {met more : List Met} {offers offers' : Nat} {events events' : List Event}

theorem append (hh : Hears settings file h met offers events h')
    (hh' : Hears settings file h' more offers' events' h'') :
    Hears settings file h (met ++ more) (offers + offers') (events ++ events') h'' := by
  induction hh with
  | nil h => rwa [Nat.zero_add]
  | line hm _ ih => exact .line hm (ih hh')
  | passed hm _ ih =>
    rw [Nat.add_right_comm]
    exact .passed hm (ih hh')
  | refused hm _ ih =>
    rw [Nat.add_right_comm]
    exact .refused hm (ih hh')

/-- All tokens are passed. -/
theorem of_passed (settings : ReadSettings) (file : Attributes) (h : HeaderState)
    (tokens : List Bytes) :
    Hears settings file h (tokens.map (⟨·, true⟩)) (h.events settings file tokens).length
      (h.events settings file tokens) (h.past settings tokens) := by
  induction tokens generalizing h with
  | nil => exact .nil h
  | cons token rest ih =>
    rw [past, List.foldl_cons]
    rcases hm : h.meet settings token with ⟨_ | _, h'⟩
    · rw [events_delivered hm]
      exact .passed hm (ih h')
    · rw [events_headerLine hm]
      exact .line hm (ih h')

theorem eq_past (hh : Hears settings file h met offers events h') :
    h' = h.past settings (met.map (·.token)) := by
  induction hh with
  | nil h => rfl
  | line hm _ ih =>
    rw [ih, List.map_cons, past, past, List.foldl_cons, hm]
  | passed hm _ ih =>
    rw [ih, List.map_cons, past, past, List.foldl_cons, hm]
  | refused hm _ ih =>
    rw [ih, List.map_cons, past, past, List.foldl_cons, hm]

/-- Once the attributes of a header are known, they stay the same. -/
theorem known_append (hh : Hears settings file h met offers events h')
    (hmore : Hears settings file h (met ++ more) offers' events' h'') {found : Attributes}
    (hf : h'.attributes? = some found) : h''.attributes? = some found := by
  cases h' with
  | reading _ => cases hf
  | done attributes =>
    rw [hmore.eq_past, List.map_append, past_append, ← hh.eq_past, past_of_fixed (meet_done _)]
    exact hf

/-- Behind its end a header stays what it is, and each event is offered with its attributes. -/
theorem of_fixed (hf : ∀ token, h.meet settings token = (false, h))
    (hh : Hears settings file h met offers events h') :
    offers = met.length ∧
      events = (met.filter (·.passed)).map (fun m => h.event settings file m.token) ∧ h' = h := by
  induction hh with
  | nil h => exact ⟨rfl, rfl, rfl⟩
  | line hm _ _ =>
    rw [hf] at hm
    cases hm
  | passed hm _ ih =>
    rw [hf] at hm
    cases hm
    obtain ⟨rfl, rfl, rfl⟩ := ih hf
    exact ⟨rfl, rfl, rfl⟩
  | refused hm _ ih =>
    rw [hf] at hm
    cases hm
    obtain ⟨rfl, rfl, rfl⟩ := ih hf
    exact ⟨rfl, rfl, rfl⟩

end Hears

end HeaderState

/-! ## Leading header lines -/

namespace ReadSettings

/-- The key and the value that a token carries as a header line. -/
def headerPair? (settings : ReadSettings) (token : Bytes) : Option (String × String) :=
  settings.header.bind fun rule => rule (Session.lineOf (settings.encoding.body token))

/-- Whether a token is a header line. -/
def isHeaderLine (settings : ReadSettings) (token : Bytes) : Bool :=
  (settings.headerPair? token).isSome

/-- The events of the tokens of a file: leading header lines are left out, and all other tokens have
the attributes that those lines carry. -/
def eventsOf (settings : ReadSettings) (file : Attributes) (tokens : List Bytes) : List Event :=
  let header := Attributes.ofList ((tokens.takeWhile settings.isHeaderLine).filterMap
    settings.headerPair?)
  (tokens.dropWhile settings.isHeaderLine).map fun token =>
    { body := settings.encoding.body token, attributes := header.override file }

end ReadSettings

namespace HeaderState

open ReadSettings (headerPair? isHeaderLine eventsOf)

variable {settings : ReadSettings} {file : Attributes}

/-- A header that is being read takes a token for a line of it just if the token is a header line. -/
theorem meet_reading {rule : HeaderRule} (hr : settings.header = some rule) (found : Attributes)
    (token : Bytes) :
    (reading found).meet settings token =
      match settings.headerPair? token with
      | some pair => (true, reading (found.insert pair.1 pair.2))
      | none => (false, done found) := by
  simp only [meet, headerPair?, hr, Option.bind_some, HeaderRule.extract?]
  cases rule (Session.lineOf (settings.encoding.body token)) <;> rfl

/-- Only header lines are taken for lines of a header. -/
theorem isHeaderLine_of_meet {h h' : HeaderState} {token : Bytes}
    (hm : h.meet settings token = (true, h')) : settings.isHeaderLine token := by
  cases hr : settings.header with
  | none =>
    rw [meet_of_none hr] at hm
    cases hm
  | some rule =>
    cases h with
    | done attributes =>
      rw [meet_done] at hm
      cases hm
    | reading found =>
      rw [meet_reading hr] at hm
      rw [isHeaderLine]
      cases hp : settings.headerPair? token with
      | none =>
        rw [hp] at hm
        cases hm
      | some pair => rfl

theorem line_of_reading {rule : HeaderRule} (hr : settings.header = some rule) {found : Attributes}
    {token : Bytes} {h' : HeaderState} (hm : (reading found).meet settings token = (true, h')) :
    ∃ pair, settings.headerPair? token = some pair ∧ h' = reading (found.insert pair.1 pair.2) := by
  rw [meet_reading hr] at hm
  cases hp : settings.headerPair? token with
  | none =>
    rw [hp] at hm
    cases hm
  | some pair =>
    rw [hp] at hm
    exact ⟨pair, rfl, (congrArg Prod.snd hm).symm⟩

theorem ended_of_reading {rule : HeaderRule} (hr : settings.header = some rule) {found : Attributes}
    {token : Bytes} {h' : HeaderState} (hm : (reading found).meet settings token = (false, h')) :
    settings.isHeaderLine token = false ∧ h' = done found := by
  rw [meet_reading hr] at hm
  rw [isHeaderLine]
  cases hp : settings.headerPair? token with
  | none =>
    rw [hp] at hm
    exact ⟨rfl, (congrArg Prod.snd hm).symm⟩
  | some pair =>
    rw [hp] at hm
    cases hm

/-- **Leading header lines are passed without an event, and all tokens behind them have their
attributes.** The first of these ends the header, also if it is turned away. -/
theorem Hears.of_reading {rule : HeaderRule} (hr : settings.header = some rule)
    {pairs : List (String × String)} {met : List Met} {offers : Nat} {events : List Event}
    {h' : HeaderState}
    (hh : Hears settings file (reading (.ofList pairs)) met offers events h') :
    let lines := met.takeWhile (settings.isHeaderLine ·.token)
    let later := met.dropWhile (settings.isHeaderLine ·.token)
    let found := Attributes.ofList (pairs ++ lines.filterMap (settings.headerPair? ·.token))
    (∀ m ∈ lines, m.passed) ∧ offers = later.length ∧
      events = (later.filter (·.passed)).map (fun m => (done found).event settings file m.token) ∧
      h' = if later = [] then reading found else done found := by
  generalize hstart : reading (.ofList pairs) = start at hh
  -- the header is read as long as the tokens are header lines; the pairs so far go with it
  induction hh generalizing pairs with
  | nil h =>
    subst hstart
    refine ⟨nofun, rfl, rfl, ?_⟩
    rw [List.takeWhile_nil, List.filterMap_nil, List.append_nil]
    rfl
  | @line _ _ _ token rest _ _ hm _ ih =>
    subst hstart
    obtain ⟨pair, hp, rfl⟩ := line_of_reading hr hm
    have hl : settings.isHeaderLine token = true := isHeaderLine_of_meet hm
    obtain ⟨hpassed, hoffers, hevents, hlast⟩ :=
      ih (congrArg reading (Attributes.insert_ofList pairs pair).symm)
    rw [List.append_assoc] at hevents hlast
    simp only [List.takeWhile_cons, List.dropWhile_cons, hl, if_true, List.filterMap_cons, hp]
    exact ⟨List.forall_mem_cons.mpr ⟨rfl, hpassed⟩, hoffers, hevents, hlast⟩
  | passed hm hrest _ =>
    subst hstart
    obtain ⟨hl, rfl⟩ := ended_of_reading hr hm
    obtain ⟨rfl, rfl, rfl⟩ := hrest.of_fixed (meet_done _)
    simp only [List.takeWhile_cons, List.dropWhile_cons, hl, Bool.false_eq_true, if_false,
      List.filterMap_nil, List.append_nil]
    exact ⟨nofun, rfl, rfl, rfl⟩
  | refused hm hrest _ =>
    subst hstart
    obtain ⟨hl, rfl⟩ := ended_of_reading hr hm
    obtain ⟨rfl, rfl, rfl⟩ := hrest.of_fixed (meet_done _)
    simp only [List.takeWhile_cons, List.dropWhile_cons, hl, Bool.false_eq_true, if_false,
      List.filterMap_nil, List.append_nil]
    exact ⟨nofun, rfl, rfl, rfl⟩

theorem events_reading {rule : HeaderRule} (hr : settings.header = some rule)
    (pairs : List (String × String)) (tokens : List Bytes) :
    (reading (.ofList pairs)).events settings file tokens =
      (tokens.dropWhile settings.isHeaderLine).map (event settings file (done (.ofList
        (pairs ++ (tokens.takeWhile settings.isHeaderLine).filterMap settings.headerPair?)))) := by
  obtain ⟨-, -, hevents, -⟩ := (Hears.of_passed settings file _ tokens).of_reading hr
  rw [hevents, List.dropWhile_map, List.takeWhile_map, List.filterMap_map, List.filter_map,
    List.map_map]
  congr 1
  exact List.filter_eq_self.mpr fun _ _ => rfl

/-- **The events of a file that is read from its beginning are those behind its header lines.** -/
theorem events_initial (settings : ReadSettings) (file : Attributes) (tokens : List Bytes) :
    (initial settings).events settings file tokens = settings.eventsOf file tokens := by
  unfold initial
  cases hr : settings.header with
  | some rule => exact events_reading hr [] tokens
  | none =>
    have hl : settings.isHeaderLine = fun _ => false := by
      funext token
      rw [isHeaderLine, headerPair?, hr]
      rfl
    have hd : tokens.dropWhile settings.isHeaderLine = tokens := by
      rw [hl]
      cases tokens <;> rfl
    have ht : tokens.takeWhile settings.isHeaderLine = [] := by
      rw [hl]
      cases tokens <;> rfl
    rw [Option.isSome_none, if_neg Bool.false_ne_true, events_of_fixed (meet_done _), eventsOf, hd,
      ht]
    rfl

end HeaderState

end LogFollow
