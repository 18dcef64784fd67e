import LogFollow.Proofs.Follower.Abreast
import LogFollow.Proofs.Follower.Emptying
import LogFollow.Proofs.Follower.Measured

/-!
# What the first poll passes over

A follower that starts at the end passes over what its first poll finds, and over nothing else: a file
without bytes gets no reader in the first poll, and a later poll reads the files that it finds for the first
time from their beginning. What polls take from a file is therefore a function of what the file is like at
each poll, and of the place where the first poll has put the reader (`eventsIn`). The bytes that were passed
over do not appear in it.
-/
namespace LogFollow

theorem Stock.getD_of_empty {stock : Stock} {path : String}
    (h : ∀ bytes, stock path = some bytes → bytes = []) : (stock path).getD [] = [] := by
  cases hs : stock path with
  | none => rfl
  | some bytes => exact h bytes hs

theorem Stock.getD_grows {before stock : Stock} {path : String}
    (h : ∀ bytes, before path = some bytes → ∃ more, stock path = some (bytes ++ more)) :
    ∃ more, (stock path).getD [] = (before path).getD [] ++ more := by
  cases hb : before path with
  | none => exact ⟨_, rfl⟩
  | some bytes =>
    obtain ⟨more, hmore⟩ := h bytes hb
    exact ⟨more, by rw [hmore]; rfl⟩

/-! ## Runs of polls -/

namespace Encounter

/-- Polls one after another, with files that are made and appended to between them. -/
inductive Appends (settings : Settings) : Stock → List Encounter → Prop
  | nil (before : Stock) : Appends settings before []
  | cons {before : Stock} {e : Encounter} {rest : List Encounter} : e.Extends settings before →
      Appends settings e.stock rest → Appends settings before (e :: rest)

/-- The files as the last poll finds them. -/
def lastStock : Stock → List Encounter → Stock
  | before, [] => before
  | _, e :: rest => lastStock e.stock rest

/-- Two polls that find the same at a path, but for what was there of old. -/
structure Alike (path : String) (old old' : Bytes) (e e' : Encounter) : Prop where
  canonical : e.fs.canonical path = e'.fs.canonical path
  stock : ∃ more, e.stock path = some (old ++ more) ∧ e'.stock path = some (old' ++ more)

variable {settings : Settings} {before : Stock} {es : List Encounter}

/-- Where a follower starts does not matter for what files may do. -/
theorem Appends.startAt (startAt : StartAt) (h : Appends settings before es) :
    Appends { settings with startAt } before es := by
  induction h with
  | nil before => exact .nil before
  | cons he _ ih =>
    exact .cons ⟨he.found, he.opens, he.grows, he.ended, he.tidy, he.apart, he.willing⟩ ih

theorem Extends.getD_ended {e : Encounter} (h : e.Extends settings before) (path : String) :
    Lines.tail ((e.stock path).getD []) = [] := by
  cases hb : e.stock path with
  | none => rfl
  | some bytes => exact h.ended path bytes hb

theorem Appends.grows (h : Appends settings before es) {path : String} {bytes : Bytes}
    (hb : before path = some bytes) : ∃ more, lastStock before es path = some (bytes ++ more) := by
  induction h generalizing bytes with
  | nil before => exact ⟨[], by rw [List.append_nil]; exact hb⟩
  | cons he _ ih =>
    obtain ⟨more, hmore⟩ := he.grows path bytes hb
    obtain ⟨rest, hrest⟩ := ih hmore
    exact ⟨more ++ rest, by rw [← List.append_assoc]; exact hrest⟩

end Encounter

namespace Standing

/-- The events of a file that is found again and again, from a place in it on. -/
def eventsIn (settings : ReadSettings) (path : String) : Standing → List Encounter → List Event
  | _, [] => []
  | s, e :: rest =>
    let bytes := (e.stock path).getD []
    s.events settings (settings.fileAttributes.attributes e.fs path) bytes ++
      eventsIn settings path (s.past settings bytes) rest

variable {settings : ReadSettings} {path : String} {s : Standing}

/-- There is nothing in a file without bytes, and one stands at its beginning behind it. -/
theorem eventsIn_beginning_cons_of_empty {e : Encounter}
    (hb : ∀ bytes, e.stock path = some bytes → bytes = []) (rest : List Encounter) :
    (beginning settings).eventsIn settings path (e :: rest) =
      (beginning settings).eventsIn settings path rest := by
  rw [eventsIn, Stock.getD_of_empty hb]
  rfl

/-- The bodies of the events that are read bit by bit are those of the events that are read at once. -/
theorem map_body_events_append (file file' file'' : Attributes) {bytes : Bytes}
    (hle : s.offset ≤ bytes.length) (hended : Lines.tail (bytes.drop s.offset) = []) (more : Bytes) :
    (s.events settings file (bytes ++ more)).map (·.body) =
      (s.events settings file' bytes).map (·.body) ++
        ((s.past settings bytes).events settings file'' (bytes ++ more)).map (·.body) := by
  rw [events, List.drop_append_of_le_length hle, Lines.contents_append hended,
    HeaderState.events_append, List.map_append, events, events,
    HeaderState.map_body_events settings file file']
  refine congrArg _ ?_
  rw [HeaderState.map_body_events settings file file'']
  change _ = (HeaderState.events settings file'' _
    (Lines.contents ((bytes ++ more).drop bytes.length))).map (·.body)
  rw [List.drop_left]
  rfl

/-- From two places that have the same behind them, the events are the same if only what was there of old
differs. -/
theorem eventsIn_congr {s' : Standing} {old old' : Bytes} {n : Nat} (hh : s.header = s'.header)
    (ho : s.offset = old.length + n) (ho' : s'.offset = old'.length + n)
    {es es' : List Encounter} (h : List.Forall₂ (Encounter.Alike path old old') es es') :
    s.eventsIn settings path es = s'.eventsIn settings path es' := by
  induction h generalizing s s' n with
  | nil => rfl
  | cons hab _ ih =>
    obtain ⟨more, hold, hold'⟩ := hab.stock
    -- both places are `n` bytes behind what was there of old
    have hdrop {offset : Nat} {front : Bytes} (h : offset = front.length + n) :
        (front ++ more).drop offset = more.drop n := by
      rw [h, ← List.drop_drop, List.drop_left]
    rw [eventsIn, eventsIn, hold, hold', Option.getD_some, Option.getD_some,
      settings.fileAttributes.attributes_of_canonical hab.canonical]
    congr 1
    · rw [events, events, hdrop ho, hdrop ho', hh]
    · refine ih (n := more.length) ?_ List.length_append List.length_append
      rw [past, past, hdrop ho, hdrop ho', hh]

/-- **From the place behind what there was, the bodies of all events are those of what was appended.** -/
theorem map_body_eventsIn {settings : Settings} {before : Stock} {es : List Encounter}
    (h : Encounter.Appends settings before es) (path : String) (file : Attributes) {s : Standing}
    (hs : s.offset = ((before path).getD []).length)
    (hended : Lines.tail ((before path).getD []) = []) :
    (s.eventsIn settings.toReadSettings path es).map (·.body) =
      (s.events settings.toReadSettings file
        ((Encounter.lastStock before es path).getD [])).map (·.body) := by
  induction h generalizing s with
  | nil before =>
    rw [Encounter.lastStock, events, hs, List.drop_length]
    rfl
  | cons he hrest ih =>
    obtain ⟨more, hmore⟩ := Stock.getD_grows (he.grows path)
    obtain ⟨rest, hlast⟩ := Stock.getD_grows fun _ => hrest.grows
    have hends := he.getD_ended path
    rw [eventsIn, List.map_append, Encounter.lastStock, ih rfl hends, hlast]
    refine (map_body_events_append _ _ _ ?_ ?_ _).symm
    · rw [hmore, List.length_append]
      omega
    · rw [hmore] at hends ⊢
      rwa [hs, List.drop_left, ← (Lines.cut_append_of_ended hended more).2]

end Standing

namespace Follower

/-- The events that polls take from the file at a path. -/
def takenIn (path : String) : Follower → List Encounter → List Event
  | _, [] => []
  | f, e :: rest => (e.world f).taken path ++ takenIn path (e.world f).poll.2.follower rest

/-- The place where the reader of a path stands; without one, the beginning of the file. -/
def place (settings : ReadSettings) (f : Follower) (path : String) : Standing :=
  (f.standing path).getD (.beginning settings)

variable {settings : Settings} {stock : Stock} {f : Follower} {path : String}

/-- Behind the first poll, files that are new are read from their beginning. -/
theorem entry_of_later (settings : ReadSettings) (hl : f.firstPoll = false) (size : Nat) :
    f.entry settings size = .beginning settings := by
  have hoffset : f.registry.firstOffset f.firstPoll size = 0 := by
    rw [Registry.firstOffset, hl, Bool.not_false, Bool.or_true]
    rfl
  rw [entry, hoffset]
  rfl

/-- The first poll of a follower that starts at the end passes over what is in a file. -/
theorem Idle.entry_of_first (h : f.Idle settings) (hend : settings.startAt = .atEnd)
    (hfirst : f.firstPoll = true) {size : Nat} (hsize : size ≠ 0) :
    f.entry settings.toReadSettings size = ⟨.done .empty, size⟩ := by
  have hoffset : f.registry.firstOffset f.firstPoll size = size := by
    rw [Registry.firstOffset, h.beginning, hend, hfirst]
    rfl
  rw [entry, hoffset]
  simp only [if_neg hsize]

theorem Abreast.place_of_empty (h : Abreast settings stock f)
    (hb : ∀ bytes, stock path = some bytes → bytes = []) :
    f.place settings.toReadSettings path = .beginning settings.toReadSettings := by
  rw [place, h.standing_of_empty hb]
  rfl

/-- **What later polls take from a file** depends on the place where its reader stands and on what they
find there. -/
theorem Abreast.takenIn_eq {es : List Encounter} (hruns : Encounter.Appends settings stock es)
    (h : Abreast settings stock f) (hs : settings.Tailing) (hl : f.firstPoll = false) :
    f.takenIn path es = (f.place settings.toReadSettings path).eventsIn settings.toReadSettings
      path es := by
  induction hruns generalizing f with
  | nil stock => rfl
  | @cons before e rest he _ ih =>
    have hpoll := h.poll hs he
    rw [takenIn, ih hpoll (e.world f).firstPoll_poll]
    by_cases hne : ∃ bytes, e.stock path = some bytes ∧ bytes ≠ []
    · obtain ⟨bytes, hstock, hne⟩ := hne
      obtain ⟨htaken, hstanding⟩ := h.taken hs he hstock hne
      rw [entry_of_later _ hl] at htaken hstanding
      rw [Standing.eventsIn, hstock, htaken, place, hstanding]
      rfl
    -- a file that has no bytes yet has had no reader so far, and gets none
    · have hempty : ∀ bytes, e.stock path = some bytes → bytes = [] := fun bytes hstock =>
        by_contra fun hbytes => hne ⟨bytes, hstock, hbytes⟩
      have hbefore : ∀ bytes, before path = some bytes → bytes = [] := fun bytes hbytes => by
        obtain ⟨more, hmore⟩ := he.grows path bytes hbytes
        exact (List.append_eq_nil_iff.mp (hempty _ hmore)).1
      rw [h.taken_of_empty hs he hempty, hpoll.place_of_empty hempty, h.place_of_empty hbefore,
        Standing.eventsIn_beginning_cons_of_empty hempty]
      rfl

variable {first : Encounter} {later : List Encounter} {old : Bytes}

/-- What is in a file at the first poll is passed over. -/
theorem Fresh.takenIn_of_old (hf : f.Fresh settings) (hs : settings.Tailing)
    (hend : settings.startAt = .atEnd)
    (hruns : Encounter.Appends settings (fun _ => none) (first :: later))
    (hold : first.stock path = some old) (hne : old ≠ []) :
    f.takenIn path (first :: later) =
      Standing.eventsIn settings.toReadSettings path ⟨.done .empty, old.length⟩ later := by
  obtain ⟨h, hfirst⟩ := hf.abreast
  cases hruns with
  | cons he hrest =>
    obtain ⟨htaken, hstanding⟩ := h.taken hs he hold hne
    have hnone : f.standing path = none := h.standing_of_empty fun _ hb => by cases hb
    have hsize : old.length ≠ 0 := fun hzero => hne (List.length_eq_zero_iff.mp hzero)
    rw [hnone, Option.getD_none, h.entry_of_first hend hfirst hsize] at htaken hstanding
    rw [Standing.events, List.drop_length] at htaken
    rw [Standing.past, List.drop_length] at hstanding
    rw [takenIn, htaken, (h.poll hs he).takenIn_eq hrest hs (first.world f).firstPoll_poll, place,
      hstanding]
    rfl

/-- A file without bytes at the first poll is read from its beginning. -/
theorem Fresh.takenIn_of_new (hf : f.Fresh settings) (hs : settings.Tailing)
    (hruns : Encounter.Appends settings (fun _ => none) (first :: later))
    (hnew : ∀ bytes, first.stock path = some bytes → bytes = []) :
    f.takenIn path (first :: later) =
      (Standing.beginning settings.toReadSettings).eventsIn settings.toReadSettings path later := by
  obtain ⟨h, -⟩ := hf.abreast
  cases hruns with
  | cons he hrest =>
    have hpoll := h.poll hs he
    rw [takenIn, h.taken_of_empty hs he hnew, hpoll.takenIn_eq hrest hs (first.world f).firstPoll_poll,
      hpoll.place_of_empty hnew]
    rfl

/-- **A follower that starts at the end hides what its first poll finds, and nothing else.** From a file
that has bytes then, just the lines that are appended later are delivered, and what the bytes are makes no
difference to it. A file that is empty then or made later is read as by a follower that starts at the
beginning: the leading header lines are left out, and all other lines are delivered. -/
theorem Fresh.hides_old {c : Config} (hbuild : c.build = .ok settings)
    (he : settings.encoding.codeUnit = 1) (hm : c.multiline = none)
    (hsized : settings.framing.Sized settings.maxLogSize) (hend : c.startAt = .atEnd)
    (hf : f.Fresh settings)
    (hruns : Encounter.Appends settings (fun _ => none) (first :: later)) (path : String) :
    (∀ old, first.stock path = some old → old ≠ [] →
      (∃ more, Encounter.lastStock first.stock later path = some (old ++ more) ∧
        (f.takenIn path (first :: later)).map (·.body) =
          (Lines.contents more).map settings.encoding.body) ∧
      ∀ (f' : Follower) (first' : Encounter) (later' : List Encounter) (old' : Bytes),
        f'.Fresh settings → Encounter.Appends settings (fun _ => none) (first' :: later') →
        first'.stock path = some old' → old' ≠ [] →
        List.Forall₂ (Encounter.Alike path old old') later later' →
        f'.takenIn path (first' :: later') = f.takenIn path (first :: later)) ∧
    ((∀ bytes, first.stock path = some bytes → bytes = []) →
      (f.takenIn path (first :: later)).map (·.body) =
        ((Lines.contents ((Encounter.lastStock first.stock later path).getD [])).dropWhile
          settings.isHeaderLine).map settings.encoding.body ∧
      ∀ (settings' : Settings) (f' : Follower),
        { c with startAt := .beginning }.build = .ok settings' → f'.Fresh settings' →
        f'.takenIn path (first :: later) = f.takenIn path (first :: later)) := by
  have hbuilt := Config.built_of_build hbuild
  have hs := Config.tailing_of_build hbuild he hm hsized (Config.keeps_of_check hbuilt.checked hend)
  have hatEnd : settings.startAt = .atEnd := hbuilt.startAt.trans hend
  obtain ⟨hfirst, hrest⟩ : first.Extends settings (fun _ => none) ∧
      Encounter.Appends settings first.stock later := by
    cases hruns with
    | cons hfirst hrest => exact ⟨hfirst, hrest⟩
  constructor
  · intro old hold hne
    rw [hf.takenIn_of_old hs hatEnd hruns hold hne]
    constructor
    · obtain ⟨more, hmore⟩ := hrest.grows hold
      refine ⟨more, hmore, ?_⟩
      rw [Standing.map_body_eventsIn hrest path .empty (by rw [hold]; rfl)
        (hfirst.getD_ended path), hmore, Option.getD_some, Standing.events, List.drop_left,
        HeaderState.events_of_fixed (HeaderState.meet_done _), List.map_map]
      rfl
    · intro f' first' later' old' hf' hruns' hold' hne' halike
      rw [hf'.takenIn_of_old hs hatEnd hruns' hold' hne']
      refine (Standing.eventsIn_congr (n := 0) ?_ ?_ ?_ halike).symm <;> rfl
  · intro hnew
    rw [hf.takenIn_of_new hs hruns hnew]
    constructor
    · rw [Standing.map_body_eventsIn hrest path .empty (by rw [Stock.getD_of_empty hnew]; rfl)
        (hfirst.getD_ended path), Standing.events]
      change (HeaderState.events settings.toReadSettings .empty (.initial settings.toReadSettings)
        (Lines.contents (List.drop 0 _))).map (·.body) = _
      rw [List.drop_zero, HeaderState.events_initial, ReadSettings.eventsOf, List.map_map]
      rfl
    · intro settings' f' hbuild' hf'
      obtain rfl := Config.eq_of_build_startAt hbuild hbuild'
      exact hf'.takenIn_of_new ⟨hs.lined, hs.keeps, hs.recognises⟩ (hruns.startAt .beginning) hnew

end Follower

/-! ## Two files -/

/-- A poll of two log files, with a sink that takes all events. -/
def Encounter.ofLogs (a b : Bytes) : Encounter := ⟨.twoLogs a b, .ofLogs a b, .healthy⟩

theorem Encounter.ofLogs_extends {settings : Settings} (hfinder : settings.finder = .logs)
    {before : Stock} {a b : Bytes}
    (ha : Lines.tail a = [] ∧ Lines.Tidy settings.maxLogSize a)
    (hb : Lines.tail b = [] ∧ Lines.Tidy settings.maxLogSize b)
    (hgrows : ∀ path bytes, before path = some bytes →
      ∃ more, Stock.ofLogs a b path = some (bytes ++ more))
    (hapart : ∀ p q bytes bytes', before p = some bytes → Stock.ofLogs a b q = some bytes' → p ≠ q →
      (Fingerprint.ofContent settings.fingerprintSize bytes).matchesWith
        (.ofContent settings.fingerprintSize bytes') = false) :
    (ofLogs a b).Extends settings before where
  found path := by
    rw [hfinder]
    exact (Stock.held_twoLogs a b).found path
  opens path bytes h := by
    obtain ⟨hoa, hob⟩ := FileSystem.openPath_twoLogs a b
    rcases Stock.ofLogs_eq_some_iff.mp h with ⟨rfl, rfl⟩ | ⟨rfl, rfl⟩
    · exact hoa
    · exact hob
  grows := hgrows
  ended path bytes h := by
    rcases Stock.ofLogs_eq_some_iff.mp h with ⟨-, rfl⟩ | ⟨-, rfl⟩
    · exact ha.1
    · exact hb.1
  tidy path bytes h := by
    rcases Stock.ofLogs_eq_some_iff.mp h with ⟨-, rfl⟩ | ⟨-, rfl⟩
    · exact ha.2
    · exact hb.2
  apart := hapart
  willing := Sink.healthy_willing

/-- The log files in the home directory are followed from their end. -/
def Config.tailed : Config := { Config.logs with startAt := .atEnd }

def Settings.tailed : Settings := { Settings.logs with startAt := .atEnd }

/-- The file `a.log` has a line at the first poll, and gets the line `y`. The file `b.log` is empty at the
first poll, and gets the line `k`. -/
def Encounter.grownLogs (line : UInt8) : List Encounter :=
  [ofLogs [line, 0x0A] [], ofLogs [line, 0x0A, 0x79, 0x0A] [0x6B, 0x0A]]

theorem Encounter.appends_grownLogs {line : UInt8} (hline : line = 0x78 ∨ line = 0x7A) :
    Appends .tailed (fun _ => none) (grownLogs line) := by
  have hfirst : (ofLogs [line, 0x0A] []).Extends .tailed (fun _ => none) := by
    refine ofLogs_extends rfl ?_ ?_ nofun nofun
    · rcases hline with rfl | rfl <;> exact ⟨by decide, ⟨by decide, by decide⟩⟩
    · exact ⟨rfl, ⟨by decide, by decide⟩⟩
  refine .cons hfirst (.cons (ofLogs_extends rfl ?_ ?_ ?_ ?_) (.nil _))
  · rcases hline with rfl | rfl <;> exact ⟨by decide, ⟨by decide, by decide⟩⟩
  · exact ⟨by decide, ⟨by decide, by decide⟩⟩
  · intro path bytes h
    rcases Stock.ofLogs_eq_some_iff.mp h with ⟨rfl, rfl⟩ | ⟨rfl, rfl⟩
    · exact ⟨[0x79, 0x0A], rfl⟩
    · exact ⟨[0x6B, 0x0A], rfl⟩
  · intro p q bytes bytes' h h' hne
    rcases Stock.ofLogs_eq_some_iff.mp h with ⟨rfl, rfl⟩ | ⟨rfl, rfl⟩
    · rcases Stock.ofLogs_eq_some_iff.mp h' with ⟨rfl, -⟩ | ⟨-, rfl⟩
      · exact absurd rfl hne
      · rcases hline with rfl | rfl <;> decide
    · rcases Stock.ofLogs_eq_some_iff.mp h' with ⟨-, rfl⟩ | ⟨rfl, -⟩
      · rcases hline with rfl | rfl <;> decide
      · exact absurd rfl hne

namespace Follower

theorem fresh_new (settings : Settings) : Fresh settings (new settings ⟨false, []⟩) :=
  ⟨⟨false, []⟩, .twoLogs [] [], rfl, rfl⟩

theorem hides_old_tailed :
    let f := new .tailed ⟨false, []⟩
    let run := Encounter.grownLogs 0x78
    Config.tailed.build = .ok .tailed ∧ f.Fresh .tailed ∧
      Encounter.Appends .tailed (fun _ => none) run ∧
      (f.takenIn "a.log" run).map (·.body) = [.text "y"] ∧
      f.takenIn "a.log" (Encounter.grownLogs 0x7A) = f.takenIn "a.log" run ∧
      (f.takenIn "b.log" run).map (·.body) = [.text "k"] ∧
      (new .logs ⟨false, []⟩).takenIn "b.log" run = f.takenIn "b.log" run := by
  intro f run
  have hbuild : Config.tailed.build = .ok .tailed := by rfl
  have hlogs : { Config.tailed with startAt := .beginning }.build = .ok .logs := by rfl
  have hruns : Encounter.Appends .tailed (fun _ => none) run :=
    Encounter.appends_grownLogs (.inl rfl)
  obtain ⟨hold, -⟩ := (fresh_new .tailed).hides_old hbuild rfl rfl (by decide) rfl hruns "a.log"
  obtain ⟨⟨more, hmore, hbodies⟩, hsame⟩ := hold [0x78, 0x0A] rfl (by decide)
  obtain ⟨-, hnew⟩ := (fresh_new .tailed).hides_old hbuild rfl rfl (by decide) rfl hruns "b.log"
  obtain ⟨hall, hbeginning⟩ := hnew fun bytes h => (Option.some.inj h).symm
  obtain rfl : more = [0x79, 0x0A] :=
    List.append_cancel_left (Option.some.inj hmore).symm
  refine ⟨hbuild, fresh_new _, hruns, hbodies.trans (by decide), ?_, hall.trans (by decide),
    hbeginning .logs _ hlogs (fresh_new _)⟩
  have hplace (a : Bytes) : (FileSystem.twoLogs a [0x6B, 0x0A]).canonical "a.log" =
      .ok ("/" ++ "/".intercalate ["work", "a.log"]) :=
    FileSystem.canonical_name FileSystem.isName_logs.1 rfl rfl
  exact hsame f _ _ [0x7A, 0x0A] (fresh_new _) (Encounter.appends_grownLogs (.inr rfl)) rfl
    (by decide) (.cons ⟨(hplace _).trans (hplace _).symm, ⟨[0x79, 0x0A], rfl, rfl⟩⟩ .nil)

/-- A leading header line of a file that was empty at the first poll is not delivered, though it is a line
with some bytes. -/
theorem leaves_out_header_line :
    let settings : Settings :=
      { Settings.tailed with
        header := some fun line => if line = "k=v" then some ("k", "v") else none }
    let f := new settings ⟨false, []⟩
    let content : Bytes := [0x6B, 0x3D, 0x76, 0x0A, 0x78, 0x0A]
    let run := [Encounter.ofLogs [] [], Encounter.ofLogs content []]
    settings.startAt = .atEnd ∧ f.Fresh settings ∧
      Encounter.Appends settings (fun _ => none) run ∧
      Stock.ofLogs [] [] "a.log" = some [] ∧
      (f.takenIn "a.log" run).map (·.body) = [.text "x"] ∧
      (f.takenIn "a.log" run).map (·.body) ≠
        (Lines.contents content).map settings.encoding.body := by
  intro settings f content run
  have hs : settings.Tailing := ⟨⟨rfl, rfl, by decide⟩, rfl, by decide⟩
  have hnothing : Lines.tail [] = [] ∧ Lines.Tidy settings.maxLogSize [] :=
    ⟨rfl, ⟨by decide, by decide⟩⟩
  have hfirst : (Encounter.ofLogs [] []).Extends settings (fun _ => none) :=
    Encounter.ofLogs_extends rfl hnothing hnothing nofun nofun
  have hsecond : (Encounter.ofLogs content []).Extends settings (Stock.ofLogs [] []) := by
    refine Encounter.ofLogs_extends rfl ⟨by decide, ⟨by decide, by decide⟩⟩ hnothing ?_ ?_
    · intro path bytes h
      rcases Stock.ofLogs_eq_some_iff.mp h with ⟨rfl, rfl⟩ | ⟨rfl, rfl⟩
      · exact ⟨content, rfl⟩
      · exact ⟨[], rfl⟩
    · intro p q bytes bytes' h h' hne
      rcases Stock.ofLogs_eq_some_iff.mp h with ⟨-, rfl⟩ | ⟨-, rfl⟩ <;>
        rcases Stock.ofLogs_eq_some_iff.mp h' with ⟨-, rfl⟩ | ⟨-, rfl⟩ <;> decide
  have hruns : Encounter.Appends settings (fun _ => none) run :=
    .cons hfirst (.cons hsecond (.nil _))
  have hbodies : (f.takenIn "a.log" run).map (·.body) = [.text "x"] := by
    have hempty : ∀ bytes, (Encounter.ofLogs [] []).stock "a.log" = some bytes → bytes = [] :=
      fun bytes h => (Option.some.inj h).symm
    rw [(fresh_new settings).takenIn_of_new hs hruns hempty]
    decide +kernel
  refine ⟨rfl, fresh_new _, hruns, rfl, hbodies, ?_⟩
  rw [hbodies]
  decide +kernel

end Follower

end LogFollow
