import LogFollow.Proofs.Reader.Faults

/-!
# Header lines are taken once

A file grows while it is read, and the sinks may turn events away at any time. Each reading takes a
portion of the file from where the one before stopped: the bytes that it passes, and perhaps a token
behind them that is turned away, which the next reading meets again, or meets the longer token that it
has become. Over all the tokens that are met in this way, the leading header lines make the attributes of
the file and no events; every token behind them is offered as an event with these attributes.
-/
namespace LogFollow

open Lines (newline)

/-! ## Portions -/

/-- What a reading takes of a file: the bytes that it passes and those that it leaves, with the token at
the front of these that was turned away, if there is one. -/
structure Portion where
  front : Bytes
  back : Bytes
  refused : Option Bytes

namespace Portion

/-- The tokens that the reading meets. -/
def met (p : Portion) : List Met :=
  (Lines.tokens p.front).map (⟨·, true⟩) ++ p.refused.toList.map (⟨·, false⟩)

/-- The portion that a reading takes of a file of this content, from a place on, when the file had the
size `seen` at the reading before. Where no token is turned away, a sink that does not stop the reading
gets all lines, and the tail as well if the file has not grown or is to be deleted. -/
structure TakenFrom (settings : ReadSettings) (place seen : Nat) (content : Bytes) (sink : Sink)
    (p : Portion) : Prop where
  split : content.drop place = p.front ++ p.back
  ended : Lines.tail p.front = [] ∨ p.back = []
  refused : ∀ token ∈ p.refused, ∃ rest, Lines.tokens p.back = token :: rest
  willing : sink.Willing → p.refused = none
  ends : sink.Goes → p.refused = none → newline ∉ p.back ∧ (settings.deleteAfterRead = true ∨
    (content.length = seen ∧ newline ∉ content.drop place) → p.back = [])

/-- Where the file ends with a newline, a willing sink gets all that is left. -/
theorem TakenFrom.of_ended {settings : ReadSettings} {place seen : Nat} {content : Bytes}
    {sink : Sink} {p : Portion} (h : p.TakenFrom settings place seen content sink)
    (hw : sink.Willing) (hended : Lines.tail (content.drop place) = []) :
    p = ⟨content.drop place, [], none⟩ := by
  obtain ⟨front, back, refused⟩ := p
  obtain ⟨hsplit, hfront, -, hwilling, hends⟩ := h
  obtain rfl : refused = none := hwilling hw
  have hback : newline ∉ back := (hends hw.toGoes rfl).1
  rw [hsplit] at hended
  obtain rfl : back = [] := Lines.eq_nil_of_ended hended hfront hback
  rw [hsplit, List.append_nil]

end Portion

/-- The portions that readings take, each of a file of its own content and with its own sink, and each
from where the one before stopped. -/
inductive Portions (settings : ReadSettings) :
    Nat → Nat → List Bytes → List Sink → List Portion → Prop
  | nil (place seen : Nat) : Portions settings place seen [] [] []
  | cons {place seen : Nat} {content : Bytes} {contents : List Bytes} {sink : Sink}
      {sinks : List Sink} {p : Portion} {portions : List Portion} :
      p.TakenFrom settings place seen content sink →
      Portions settings (place + p.front.length) content.length contents sinks portions →
      Portions settings place seen (content :: contents) (sink :: sinks) (p :: portions)

/-! ## Readings -/

/-- From one header and sink to others, the tokens are met as `Hears` says. -/
theorem HeaderState.Meets.hears {settings : ReadSettings} {file : Attributes} {h h' : HeaderState}
    {sink sink' : Sink} {tokens left : List Bytes} {refused : Option Bytes}
    (hm : Meets settings file h sink tokens left refused h' sink') :
    Hears settings file h (tokens.map (⟨·, true⟩) ++ refused.toList.map (⟨·, false⟩))
      (sink'.offered - sink.offered) (h.events settings file tokens) h' := by
  have hoffers : sink'.offered - sink.offered =
      (h.events settings file (tokens ++ refused.toList)).length := by
    rw [hm.offered, Nat.add_sub_cancel_left]
  rw [hoffers, hm.header]
  have hpassed := Hears.of_passed settings file h tokens
  cases refused with
  | none => simpa only [Option.toList_none, List.map_nil, List.append_nil] using hpassed
  | some token =>
    rcases hmeet : (h.past settings tokens).meet settings token with ⟨_ | _, h'⟩
    · have hevents : (h.past settings tokens).events settings file [token] =
          [h'.event settings file token] := events_delivered hmeet []
      have hpast : (h.past settings tokens).past settings [token] = h' := congrArg Prod.snd hmeet
      have happend := hpassed.append (.refused hmeet (.nil h'))
      rw [Option.toList_some, events_append, List.length_append, past_append, hevents, hpast]
      rwa [List.append_nil] at happend
    · have hbehind := hm.behind token rfl
      rw [hmeet] at hbehind
      cases hbehind

namespace Reader

variable {settings : ReadSettings} {content : Bytes} {r : Reader} {fs : FileSystem}

/-- The number of events that readings one after another offer to their sinks. -/
def offersEach (settings : ReadSettings) : Reader → List (FileSystem × Sink) → Nat
  | _, [] => 0
  | r, (fs, sink) :: calls =>
    let reading := r.readToEnd settings fs { sink with accepted := [] }
    reading.sink.offered - sink.offered + offersEach settings reading.reader calls

/-- A reading takes a portion of the file, and its header meets the tokens of that. -/
theorem exists_portion (hp : settings.Lined) (htidy : Lines.Tidy settings.maxLogSize content)
    (ho : fs.openPath r.path = .ok (.file content)) (hl : r.offset ≤ content.length) (sink : Sink) :
    let reading := r.readToEnd settings fs { sink with accepted := [] }
    ∃ p : Portion, p.TakenFrom settings r.offset r.lastSeenSize content sink ∧
      HeaderState.Hears settings r.fileAttributes r.header p.met
        (reading.sink.offered - sink.offered) reading.sink.accepted reading.reader.header ∧
      reading.reader.offset = r.offset + p.front.length ∧
      reading.reader.lastSeenSize = content.length ∧ reading.reader.path = r.path ∧
      reading.reader.fileAttributes = r.fileAttributes := by
  intro reading
  obtain ⟨front, back, h⟩ := proceeds_of_tidy hp (htidy.drop r.offset) { sink with accepted := [] }
    settings.deleteAfterRead
  rw [← read_of_openPath ho hl, ← readToEnd] at h
  obtain ⟨refused, hm⟩ := h.meets
  have hreader := h.reader
  refine ⟨⟨front, back, refused⟩, ⟨h.split, h.ended, hm.first, fun hw => ?_, fun hg hnone => ?_⟩, ?_,
    congrArg Reader.offset hreader, congrArg Reader.lastSeenSize hreader,
    (congrArg Reader.path hreader).trans rfl, (congrArg Reader.fileAttributes hreader).trans rfl⟩
  · exact hm.willing ⟨hw.accepts, hw.goes, hw.uninterrupted⟩
  · obtain rfl : refused = none := hnone
    exact h.ends_of_goes hm ⟨hg.never, hg.goes, hg.uninterrupted⟩
  · have haccepted : reading.sink.accepted =
        r.header.events settings r.fileAttributes (Lines.tokens front) := h.accepted
    rw [haccepted]
    exact hm.hears

/-- Readings of a growing file take portions of it one behind the other, and after any number of them
the header has met the tokens of these. -/
theorem exists_portions (hp : settings.Lined) {path : String} {contents : List Bytes}
    {calls : List (FileSystem × Sink)}
    (ho : List.Forall₂ (fun call content => call.1.openPath path = .ok (.file content)) calls
      contents)
    (hpath : r.path = path)
    (htidy : ∀ content ∈ contents, Lines.Tidy settings.maxLogSize content)
    (hgrows : contents.Pairwise (· <+: ·)) (hl : ∀ content ∈ contents, r.offset ≤ content.length) :
    ∃ portions, Portions settings r.offset r.lastSeenSize contents (calls.map (·.2)) portions ∧
      ∀ n, HeaderState.Hears settings r.fileAttributes r.header
        ((portions.take n).flatMap (·.met)) (offersEach settings r (calls.take n))
        (readEach settings r (calls.take n)).2 (readEach settings r (calls.take n)).1.header := by
  induction ho generalizing r with
  | nil =>
    refine ⟨[], .nil _ _, fun n => ?_⟩
    rw [List.take_nil, List.take_nil]
    exact .nil r.header
  | @cons call content calls contents hopen hrest ih =>
    obtain ⟨fs, sink⟩ := call
    obtain ⟨htidy, htidys⟩ := List.forall_mem_cons.mp htidy
    obtain ⟨hlonger, hgrows⟩ := List.pairwise_cons.mp hgrows
    obtain ⟨p, htaken, hhears, hoffset, hseen, hpath', hfile⟩ :=
      exists_portion hp htidy (hpath ▸ hopen) (hl content List.mem_cons_self) sink
    generalize hreading : r.readToEnd settings fs { sink with accepted := [] } = reading at *
    -- the reader stands within the file, so it does within each longer one
    have hstop : r.offset + p.front.length ≤ content.length := by
      have hlen := congrArg List.length htaken.split
      have hle := hl content List.mem_cons_self
      rw [List.length_drop, List.length_append] at hlen
      omega
    have hl' : ∀ longer ∈ contents, reading.reader.offset ≤ longer.length := by
      intro longer hmem
      rw [hoffset]
      exact Nat.le_trans hstop (hlonger longer hmem).length_le
    obtain ⟨portions, hportions, hlater⟩ := ih (hpath'.trans hpath) htidys hgrows hl'
    refine ⟨p :: portions, .cons htaken ?_, fun n => ?_⟩
    · rwa [hoffset, hseen] at hportions
    · cases n with
      | zero => exact .nil r.header
      | succ n =>
        have happend := hhears.append (hfile ▸ hlater n)
        simpa only [List.take_succ_cons, List.flatMap_cons, readEach, offersEach, hreading]
          using happend

end Reader

/-! ## The header -/

namespace ReadSettings

/-- Of the tokens that a reader meets which was made at an offset, the lines of the header: the leading
header lines, if the file is read from its beginning. -/
def headerOf (settings : ReadSettings) (offset : Nat) (met : List Met) : List Met :=
  if offset = 0 then met.takeWhile (settings.isHeaderLine ·.token) else []

/-- The tokens behind the header. -/
def behindHeader (settings : ReadSettings) (offset : Nat) (met : List Met) : List Met :=
  if offset = 0 then met.dropWhile (settings.isHeaderLine ·.token) else met

/-- The keys and values in the lines of the header. -/
def headerPairs (settings : ReadSettings) (offset : Nat) (met : List Met) : List (String × String) :=
  (settings.headerOf offset met).filterMap (settings.headerPair? ·.token)

end ReadSettings

/-- The header is taken once: its lines are passed and not offered, every other token is offered, and the
events of those that are accepted have the attributes of the file and of its header. The attributes of
the header are known just when a token behind it was met. -/
structure HeaderTaken (settings : ReadSettings) (file : Attributes) (offset : Nat) (met : List Met)
    (offers : Nat) (events : List Event) (h : HeaderState) : Prop where
  passed : ∀ m ∈ settings.headerOf offset met, m.passed
  offers : offers = (settings.behindHeader offset met).length
  attributes : ∀ event ∈ events, ∀ key, event.attributes.get? key =
    (file.get? key).or (Attributes.lastValue? (settings.headerPairs offset met) key)
  events : events = ((settings.behindHeader offset met).filter (·.passed)).map fun m =>
    { body := settings.encoding.body m.token
      attributes := (Attributes.ofList (settings.headerPairs offset met)).override file }
  known : h.attributes? =
    if offset = 0 ∧ settings.behindHeader offset met = [] then none
    else some (.ofList (settings.headerPairs offset met))

theorem HeaderState.Hears.headerTaken {settings : ReadSettings} {rule : HeaderRule}
    (hr : settings.header = some rule) {file : Attributes} {offset : Nat} {met : List Met}
    {offers : Nat} {events : List Event} {h h' : HeaderState}
    (hfirst : h = if offset = 0 then .initial settings else .done .empty)
    (hh : Hears settings file h met offers events h') :
    HeaderTaken settings file offset met offers events h' := by
  have hattributes : ∀ (pairs : List (String × String)) (tokens : List Met),
      events = List.map (fun m => (done (.ofList pairs)).event settings file m.token) tokens →
      ∀ event ∈ events, ∀ key, event.attributes.get? key =
        (file.get? key).or (Attributes.lastValue? pairs key) := by
    rintro pairs tokens rfl event he key
    obtain ⟨m, -, rfl⟩ := List.mem_map.mp he
    rw [HeaderState.event, Attributes.get?_override, ← Attributes.get?_ofList]
    rfl
  by_cases hz : offset = 0
  · subst hz
    have hinitial : h = reading (.ofList []) := by
      rw [hfirst, if_pos rfl, initial, hr]
      rfl
    rw [hinitial] at hh
    obtain ⟨hpassed, hoffers, hevents, hlast⟩ := hh.of_reading hr
    rw [List.nil_append] at hevents hlast
    refine ⟨hpassed, hoffers, hattributes _ _ hevents, hevents, ?_⟩
    rw [hlast, ReadSettings.behindHeader, if_pos rfl]
    by_cases hlater : met.dropWhile (settings.isHeaderLine ·.token) = []
    · rw [if_pos hlater, if_pos ⟨rfl, hlater⟩]
      rfl
    · rw [if_neg hlater, if_neg fun h => hlater h.2]
      rfl
  · rw [hfirst, if_neg hz] at hh
    obtain ⟨hoffers, hevents, rfl⟩ := hh.of_fixed (meet_done _)
    have hheader : settings.headerOf offset met = [] := if_neg hz
    have hpairs : settings.headerPairs offset met = [] := by
      rw [ReadSettings.headerPairs, hheader]
      rfl
    have hbehind : settings.behindHeader offset met = met := if_neg hz
    refine ⟨?_, ?_, ?_, ?_, ?_⟩
    · rw [hheader]
      exact nofun
    · rw [hbehind]
      exact hoffers
    · rw [hpairs]
      exact hattributes [] _ hevents
    · rw [hbehind, hpairs]
      exact hevents
    · rw [if_neg fun h => hz h.1, hpairs]
      rfl

namespace Reader

variable {settings : ReadSettings} {rule : HeaderRule} {path : String} {contents : List Bytes}
  {calls : List (FileSystem × Sink)} {offset : Nat}

/-- **Header lines become attributes once.** Readings of a growing file, with whatever sinks, take
portions of it one behind the other. After each number of them the header of the tokens in these is
taken once; and once its attributes are known, they stay the same. -/
theorem readEach_takes_header (hp : settings.Lined) (hr : settings.header = some rule)
    (ho : List.Forall₂ (fun call content => call.1.openPath path = .ok (.file content)) calls
      contents)
    (htidy : ∀ content ∈ contents, Lines.Tidy settings.maxLogSize content)
    (hgrows : contents.Pairwise (· <+: ·)) (hl : ∀ content ∈ contents, offset ≤ content.length)
    (made : FileSystem) (fingerprint : Fingerprint) :
    let first := Reader.new settings made path fingerprint offset
    let after := fun n => readEach settings first (calls.take n)
    (∃ portions, Portions settings offset 0 contents (calls.map (·.2)) portions ∧
      ∀ n, HeaderTaken settings first.fileAttributes offset ((portions.take n).flatMap (·.met))
        (offersEach settings first (calls.take n)) (after n).2 (after n).1.header) ∧
      ∀ n more found, (after n).1.header.attributes? = some found →
        (after (n + more)).1.header.attributes? = some found := by
  intro first after
  obtain ⟨portions, hportions, hhears⟩ :=
    exists_portions (r := first) hp ho rfl htidy hgrows hl
  refine ⟨⟨portions, hportions, fun n => (hhears n).headerTaken hr rfl⟩, ?_⟩
  intro n more found hfound
  have hlater := hhears (n + more)
  rw [List.take_add, List.flatMap_append] at hlater
  exact (hhears n).known_append hlater hfound

/-- The header line `k=v`, the line `x`, and the header line once more. -/
def headedTwice : Bytes := [0x6B, 0x3D, 0x76, 0x0A, 0x78, 0x0A, 0x6B, 0x3D, 0x76, 0x0A]

/-- However the readings behind the header line divide the two lines, and whether or not a token is met
twice, the header is the first line. -/
theorem behindHeader_headedTwice {front back : List Bytes} {refused : Option Bytes}
    (hsplit : [[0x78], [0x6B, 0x3D, 0x76]] = front ++ back)
    (hfirst : ∀ token ∈ refused, ∃ rest, back = token :: rest) :
    let met : List Met := ⟨[0x6B, 0x3D, 0x76], true⟩ ::
      (front.map (⟨·, true⟩) ++ (refused.toList.map (⟨·, false⟩) ++ back.map (⟨·, true⟩)))
    headedLines.headerPairs 0 met = [("k", "v")] ∧ headedLines.behindHeader 0 met ≠ [] ∧
      ((headedLines.behindHeader 0 met).filter (·.passed)).map (·.token) =
        [[0x78], [0x6B, 0x3D, 0x76]] := by
  rcases front with _ | ⟨a, _ | ⟨b, _ | ⟨c, front⟩⟩⟩
  · obtain rfl := hsplit
    cases refused with
    | none => decide +kernel
    | some token =>
      obtain ⟨rest, hrest⟩ := hfirst token rfl
      obtain ⟨rfl, rfl⟩ := List.cons.inj hrest
      decide +kernel
  · obtain ⟨rfl, rfl⟩ := List.cons.inj hsplit
    cases refused with
    | none => decide +kernel
    | some token =>
      obtain ⟨rest, hrest⟩ := hfirst token rfl
      obtain ⟨rfl, rfl⟩ := List.cons.inj hrest
      decide +kernel
  · obtain ⟨rfl, htail⟩ := List.cons.inj hsplit
    obtain ⟨rfl, rfl⟩ := List.cons.inj htail
    cases refused with
    | none => decide +kernel
    | some token =>
      obtain ⟨rest, hrest⟩ := hfirst token rfl
      cases hrest
  · cases hsplit

/-- A sink that refuses all events. -/
def refusingSink : Sink := { reaction := fun _ => .refuse }

/-- The first reading meets the header line. The last one meets what the reading between them leaves of
the two lines behind it. -/
theorem exists_met_headedTwice {portions : List Portion}
    (h : Portions headedLines 0 0 [headedTwice.take 4, headedTwice, headedTwice]
      [.healthy, refusingSink, .healthy] portions) :
    ∃ (front back : List Bytes) (refused : Option Bytes),
      [[0x78], [0x6B, 0x3D, 0x76]] = front ++ back ∧
      (∀ token ∈ refused, ∃ rest, back = token :: rest) ∧
      (portions.take 1).flatMap (·.met) = [⟨[0x6B, 0x3D, 0x76], true⟩] ∧
      (portions.take 3).flatMap (·.met) = ⟨[0x6B, 0x3D, 0x76], true⟩ ::
        (front.map (⟨·, true⟩) ++ (refused.toList.map (⟨·, false⟩) ++ back.map (⟨·, true⟩))) := by
  obtain ⟨p₁, p₂, p₃, rfl, h₁, h₂, h₃⟩ : ∃ p₁ p₂ p₃, portions = [p₁, p₂, p₃] ∧
      p₁.TakenFrom headedLines 0 0 (headedTwice.take 4) .healthy ∧
      p₂.TakenFrom headedLines (0 + p₁.front.length) 4 headedTwice refusingSink ∧
      p₃.TakenFrom headedLines (0 + p₁.front.length + p₂.front.length) 10 headedTwice .healthy := by
    obtain _ | ⟨h₁, _ | ⟨h₂, _ | ⟨h₃, _ | _⟩⟩⟩ := h
    exact ⟨_, _, _, rfl, h₁, h₂, h₃⟩
  have hp₁ := h₁.of_ended Sink.healthy_willing (by decide)
  have hplace : 0 + p₁.front.length = 4 := by rw [hp₁]; rfl
  rw [hplace] at h₂ h₃
  have hsplit := h₂.split
  have hrest : headedTwice.drop (4 + p₂.front.length) = p₂.back := by
    rw [← List.drop_drop, hsplit, List.drop_left]
  have hended : Lines.tail p₂.back = [] := by
    rcases h₂.ended with hfront | hback
    · rw [← (Lines.cut_append_of_ended hfront p₂.back).2, ← hsplit]
      decide
    · rw [hback]
      rfl
  have hp₃ := h₃.of_ended Sink.healthy_willing (hrest ▸ hended)
  have hmet₁ : p₁.met = [⟨[0x6B, 0x3D, 0x76], true⟩] := by
    rw [hp₁]
    decide
  have hmet₃ : p₃.met = (Lines.tokens p₂.back).map (⟨·, true⟩) := by
    rw [hp₃, Portion.met, hrest]
    exact List.append_nil _
  have htokens : [[0x78], [0x6B, 0x3D, 0x76]] = Lines.tokens p₂.front ++ Lines.tokens p₂.back :=
    Eq.trans (by decide) (tokens_split hsplit h₂.ended)
  refine ⟨Lines.tokens p₂.front, Lines.tokens p₂.back, p₂.refused, htokens, h₂.refused, ?_, ?_⟩
  · show p₁.met ++ [] = _
    rw [hmet₁, List.append_nil]
  · show p₁.met ++ (p₂.met ++ (p₃.met ++ [])) = _
    rw [hmet₁, hmet₃, Portion.met, List.append_nil, List.append_assoc]
    rfl

/-- Whatever is met of the lines behind the header line when they are refused, a later reading delivers
both of them with its attribute: `x`, and `k=v` like any other line. -/
theorem readEach_takes_header_refused :
    let fs := fun n => oneFile (headedTwice.take n)
    let calls := [(fs 4, .healthy), (fs 10, refusingSink), (fs 10, .healthy)]
    let contents := [headedTwice.take 4, headedTwice, headedTwice]
    let after := fun n =>
      readEach headedLines (.new headedLines (fs 4) "a.log" ⟨[]⟩ 0) (calls.take n)
    headedLines.Lined ∧ headedLines.header.isSome ∧
      List.Forall₂ (fun call content => call.1.openPath "a.log" = .ok (.file content)) calls
        contents ∧
      (∀ content ∈ contents, Lines.Tidy headedLines.maxLogSize content) ∧
      contents.Pairwise (· <+: ·) ∧
      (after 1).1.header.attributes? = none ∧
      (after 3).1.header.attributes? = some (.ofList [("k", "v")]) ∧
      (after 3).2 = [⟨.text "x", .ofList [("file_name", "a.log"), ("k", "v")]⟩,
        ⟨.text "k=v", .ofList [("file_name", "a.log"), ("k", "v")]⟩] := by
  intro fs calls contents after
  have ho (n : Nat) : (fs n).openPath "a.log" = .ok (.file (headedTwice.take n)) :=
    FileSystem.openPath_name FileSystem.isName_logs.1 rfl rfl
  have hp : headedLines.Lined := ⟨rfl, rfl, by decide⟩
  have hopen : List.Forall₂ (fun call content => call.1.openPath "a.log" = .ok (.file content)) calls
      contents := .cons (ho 4) (.cons (ho 10) (.cons (ho 10) .nil))
  have htidy : ∀ content ∈ contents, Lines.Tidy headedLines.maxLogSize content := by
    have hall : ∀ content ∈ [headedTwice.take 4, headedTwice, headedTwice],
        (∀ line ∈ Lines.whole content, (Lines.trim line).length ≤ 8) ∧
          (Lines.tail content).length ≤ 8 := by decide
    exact fun content hc => ⟨(hall content hc).1, (hall content hc).2⟩
  have hgrows : contents.Pairwise (· <+: ·) := by
    have hprefix : [headedTwice.take 4, headedTwice, headedTwice].Pairwise (· <+: ·) := by decide
    exact hprefix
  obtain ⟨⟨portions, hportions, htaken⟩, -⟩ := readEach_takes_header hp rfl hopen htidy hgrows
    (fun content _ => Nat.zero_le content.length) (fs 4) ⟨[]⟩
  obtain ⟨front, back, refused, hsplit, hfirst, hone, hthree⟩ := exists_met_headedTwice hportions
  obtain ⟨hpairs, hlater, hpassed⟩ := behindHeader_headedTwice hsplit hfirst
  have hknown := (htaken 3).known
  have hevents := (htaken 3).events
  rw [hthree, hpairs] at hknown hevents
  refine ⟨hp, rfl, hopen, htidy, hgrows, ?_, ?_, ?_⟩
  · refine (htaken 1).known.trans ?_
    rw [hone]
    decide +kernel
  · rwa [if_neg fun h => hlater h.2] at hknown
  · have hevent (file : Attributes) := congrArg (List.map fun token => (⟨headedLines.encoding.body token,
      (Attributes.ofList [("k", "v")]).override file⟩ : Event)) hpassed
    simp only [List.map_map] at hevent
    exact (hevents.trans (hevent _)).trans (by decide +kernel)

end Reader

end LogFollow
