import LogFollow.Proofs.Follower.Following
import LogFollow.Proofs.Follower.Paths
import LogFollow.Proofs.Reader.Excerpts

/-!
# What a poll delivers of one path

In one poll two readers can read the file at a path: the one that the path is resolved to, and the one
that was bound to the path and is given up. What they deliver stands at different places of the file,
unless the reader that is given up has been outranked: it still knows the file, but the reader of another
path has a longer beginning in common with it and goes on with it. Then bytes can be delivered twice.
-/
namespace LogFollow

/-- Two spans have no byte in common. -/
def Span.Apart (a b : Span) : Prop := a.stop ≤ b.start ∨ b.stop ≤ a.start

/-- These excerpts are what a reading has delivered of the file at the path of its reader. -/
def Passage.Quotes (settings : ReadSettings) (fs : FileSystem) (x : Passage)
    (excerpts : List Excerpt) : Prop :=
  x.reading.Quotes settings (fs.contentAt x.reader.path)
    (x.reader.beginning (fs.contentAt x.reader.path)) x.before excerpts

theorem Passage.Quotes.delivered {settings : ReadSettings} {fs : FileSystem} {x : Passage}
    {excerpts : List Excerpt} (h : x.Quotes settings fs excerpts) :
    x.delivered = excerpts.map (·.event) := by
  rw [Passage.delivered, h.accepted, List.drop_left]

/-- Readings of readers with different paths. -/
theorem DistinctPaths.pairwise_passages {account : List (Passage × List Excerpt)}
    (h : DistinctPaths ((account.map Prod.fst).map (·.reader))) :
    account.Pairwise fun x y => FilePath.same x.1.reader.path y.1.reader.path = false := by
  rw [DistinctPaths, List.map_map, List.map_map] at h
  refine (List.pairwise_map.mp h).imp fun {x y} hne => ?_
  rw [← Bool.not_eq_true, FilePath.same_iff]
  exact hne

namespace FileSystem

/-- What stands at a path, if there is something. -/
theorem openPath_of_contentAt {fs : FileSystem} {path : String} (h : fs.contentAt path ≠ []) :
    fs.openPath path = .ok (.file (fs.contentAt path)) := by
  unfold contentAt at h ⊢
  split
  · next ho => exact ho
  · next hno =>
    split at h
    · next ho => exact absurd ho (hno _)
    · exact absurd rfl h

end FileSystem

namespace World

theorem settle_within (w : World) (reading : Reading) : (settle w reading).fs.Within w.fs := by
  unfold settle
  split
  · split
    · next hremove => exact FileSystem.remove_within hremove
    · exact .refl _
  · exact .refl _

/-- A poll only takes files away. -/
theorem foldl_settle_within (readings : List Reading) (w : World) :
    (readings.foldl settle w).fs.Within w.fs := by
  induction readings generalizing w with
  | nil => exact .refl _
  | cons reading rest ih => exact (ih (settle w reading)).trans (w.settle_within reading)

/-- The readers that a poll gives up are those that no path was resolved to. -/
theorem readers_settled (w : World) :
    w.settled.follower.registry.readers = w.resolved.2.registry.readers := by
  obtain ⟨-, -, hc, -⟩ := foldl_settle_frame (w.readings.1.map (·.reading)) w.hasRead
  rw [Registry.readers, settled, hc]
  rfl

theorem reader_mem_of_mem_flushes {w : World} {x : Passage} (h : x ∈ w.flushes.1) :
    x.reader ∈ w.resolved.2.registry.readers := by
  rw [flushes] at h
  rw [← readers_settled]
  exact reader_mem_of_mem_passages h

/-- The readings of a poll, and the last readings of the readers that it gives up, with what they
deliver. -/
structure Account (w : World) (read flushed : List (Passage × List Excerpt)) : Prop where
  readings : read.map Prod.fst = w.readings.1
  flushes : flushed.map Prod.fst = w.flushes.1
  quotes_read : ∀ x ∈ read, x.1.Quotes w.follower.settings.toReadSettings w.fs x.2
  quotes_flushed : ∀ x ∈ flushed,
    x.1.Quotes w.follower.settings.toReadSettings w.settled.fs x.2

/-- What is delivered, with the paths that it is delivered from. -/
def quotations (account : List (Passage × List Excerpt)) : List (String × Excerpt) :=
  account.flatMap fun x => x.2.map fun e => (x.1.reader.path, e)

/-- The path was resolved to the successor of a reader of another path, and the reader that is bound to
the path, though it knows the file there, was given up. -/
def Outranked (w : World) (path : String) : Prop :=
  ∃ content given other, w.follower.Outranks w.fs path content given other ∧
    given ∈ w.resolved.2.registry.readers ∧
    ∃ r ∈ w.resolved.1, r.path = path ∧ r.offset = other.offset

variable {settings : Settings} {w : World} {read flushed : List (Passage × List Excerpt)}

theorem exists_excerpts (P : Passage → List Excerpt → Prop) {passages : List Passage}
    (h : ∀ x ∈ passages, ∃ excerpts, P x excerpts) :
    ∃ account : List (Passage × List Excerpt), account.map Prod.fst = passages ∧
      ∀ x ∈ account, P x.1 x.2 := by
  induction passages with
  | nil => exact ⟨[], rfl, fun _ hx => absurd hx List.not_mem_nil⟩
  | cons x rest ih =>
    obtain ⟨excerpts, hx⟩ := h x List.mem_cons_self
    obtain ⟨account, hm, ha⟩ := ih fun y hy => h y (List.mem_cons_of_mem _ hy)
    refine ⟨(x, excerpts) :: account, by rw [List.map_cons, hm], fun y hy => ?_⟩
    rcases List.mem_cons.mp hy with rfl | hy
    · exact hx
    · exact ha y hy

/-- Each reading of a poll delivers excerpts of the file at its path. -/
theorem exists_account (hr : w.follower.settings.framing.CutsFront) :
    ∃ read flushed, Account w read flushed := by
  obtain ⟨read, hread, hquotes⟩ := exists_excerpts
    (Passage.Quotes w.follower.settings.toReadSettings w.fs) fun x (hx : x ∈ w.readings.1) => by
      have hx' : x.reading = x.reader.readToEnd w.follower.settings.toReadSettings w.fs x.before :=
        reading_of_mem_passages hx
      unfold Passage.Quotes
      rw [hx']
      exact Reader.read_quotes hr w.fs x.reader x.before _
  obtain ⟨flushed, hflushed, hquotes'⟩ := exists_excerpts
    (Passage.Quotes w.follower.settings.toReadSettings w.settled.fs)
    fun x (hx : x ∈ w.flushes.1) => by
      have hx' : x.reading = x.reader.retire w.follower.settings.toReadSettings w.settled.fs
          x.before := reading_of_mem_passages hx
      obtain ⟨excerpts, hq, -⟩ := Reader.retire_quotes hr w.settled.fs x.reader x.before
      exact ⟨excerpts, by rwa [Passage.Quotes, hx']⟩
  exact ⟨read, flushed, hread, hflushed, hquotes, hquotes'⟩

theorem accepted_readings (hr : w.follower.settings.framing.CutsFront) :
    w.readings.2.accepted = w.sink.accepted ++ w.readings.1.flatMap (·.delivered) := by
  rw [readings]
  refine accepted_passages _ _ (fun r _ sink => ?_) _
  obtain ⟨excerpts, hq⟩ := Reader.read_quotes hr w.fs r sink w.follower.settings.deleteAfterRead
  exact ⟨_, hq.accepted.symm⟩

theorem accepted_flushes (hr : w.follower.settings.framing.CutsFront) :
    w.flushes.2.accepted = w.settled.sink.accepted ++ w.flushes.1.flatMap (·.delivered) := by
  rw [flushes]
  refine accepted_passages _ _ (fun r _ sink => ?_) _
  obtain ⟨excerpts, hq, -⟩ := Reader.retire_quotes hr w.settled.fs r sink
  exact ⟨_, hq.accepted.symm⟩

/-- What a poll delivers is delivered in its readings, and in the last readings of those that it gives
up. -/
theorem accepted_poll (hr : w.follower.settings.framing.CutsFront) :
    w.poll.2.sink.accepted =
      w.sink.accepted ++ (w.readings.1 ++ w.flushes.1).flatMap (·.delivered) := by
  have hflushes : w.poll.2.sink = w.flushes.2 := by rw [poll_snd]
  have hsettled : w.settled.sink = w.readings.2 :=
    (foldl_settle_frame (w.readings.1.map Passage.reading) w.hasRead).2.2.2.2.2
  rw [hflushes, accepted_flushes hr, hsettled, accepted_readings hr, List.flatMap_append,
    List.append_assoc]

/-- What readings deliver are the events of their quotations. -/
theorem delivered_quotations {settings : ReadSettings} {fs : FileSystem}
    {account : List (Passage × List Excerpt)} (h : ∀ x ∈ account, x.1.Quotes settings fs x.2) :
    (account.map Prod.fst).flatMap (·.delivered) = (quotations account).map (·.2.event) := by
  rw [List.flatMap_map, quotations, List.map_flatMap]
  refine List.flatMap_congr fun x hx => ?_
  rw [(h x hx).delivered, List.map_map]
  rfl

/-- What a poll delivers is what its account says. -/
theorem Account.accepted (h : Account w read flushed)
    (hr : w.follower.settings.framing.CutsFront) :
    w.poll.2.sink.accepted =
      w.sink.accepted ++ (quotations (read ++ flushed)).map (·.2.event) := by
  rw [accepted_poll hr, List.flatMap_append, ← h.readings, ← h.flushes,
    delivered_quotations h.quotes_read, delivered_quotations h.quotes_flushed, quotations, quotations,
    quotations, List.flatMap_append, List.map_append]

/-- What is quoted is related if what one reading quotes is, and what different ones quote. -/
theorem pairwise_quotations {R : String × Excerpt → String × Excerpt → Prop}
    {account : List (Passage × List Excerpt)}
    (hone : ∀ x ∈ account, x.2.Pairwise fun d e => R (x.1.reader.path, d) (x.1.reader.path, e))
    (htwo : account.Pairwise fun x y =>
      ∀ d ∈ x.2, ∀ e ∈ y.2, R (x.1.reader.path, d) (y.1.reader.path, e)) :
    (quotations account).Pairwise R := by
  refine List.pairwise_flatMap.mpr ⟨fun x hx => List.pairwise_map.mpr (hone x hx), ?_⟩
  refine htwo.imp fun {x y} hxy => ?_
  simp only [List.mem_map]
  rintro _ ⟨d, hd, rfl⟩ _ ⟨e, he, rfl⟩
  exact hxy d hd e he

/-- A last reading delivers from a path that was read before only if the path is outranked. -/
theorem Account.outranked (h : Account w read flushed) (hd : DistinctPaths w.follower.registry.readers)
    (hr : w.follower.settings.framing.CutsFront) {x y : Passage × List Excerpt} (hx : x ∈ read)
    (hy : y ∈ flushed) (hx' : x.2 ≠ []) (hy' : y.2 ≠ [])
    (hs : FilePath.same x.1.reader.path y.1.reader.path = true) : w.Outranked x.1.reader.path := by
  have hread : x.1.reader ∈ w.resolved.1 := by
    apply reader_mem_of_mem_readings
    rw [← h.readings]
    exact List.mem_map_of_mem hx
  have hflushed : y.1 ∈ w.flushes.1 := by
    rw [← h.flushes]
    exact List.mem_map_of_mem hy
  have hgiven := reader_mem_of_mem_flushes hflushed
  -- the file at the path was there when it was read, and the reader that is given up knows it
  have hopen : w.fs.openPath x.1.reader.path = .ok (.file (w.fs.contentAt x.1.reader.path)) := by
    refine FileSystem.openPath_of_contentAt fun hnil => ?_
    obtain ⟨e, he⟩ := List.exists_mem_of_ne_nil _ hx'
    have hw := (h.quotes_read x hx).excerpts.within e he
    rw [hnil, List.length_nil] at hw
    omega
  obtain ⟨content, hopen', hm⟩ : ∃ content,
      w.settled.fs.openPath y.1.reader.path = .ok (.file content) ∧
      (Fingerprint.ofContent w.follower.settings.fingerprintSize content).matchesWith
        y.1.reader.fingerprint = true := by
    obtain ⟨excerpts, hq, hknown⟩ := Reader.retire_quotes hr w.settled.fs y.1.reader y.1.before
    have hreading : y.1.reading = y.1.reader.retire w.follower.settings.toReadSettings w.settled.fs
        y.1.before := reading_of_mem_passages hflushed
    refine hknown fun hnil => hy' ?_
    have haccepted := (h.quotes_flushed y hy).accepted
    rw [hreading, hq.accepted, hnil, List.append_cancel_left_eq] at haccepted
    exact List.map_eq_nil_iff.mp haccepted.symm
  have hcontent := (foldl_settle_within (w.readings.1.map Passage.reading) w.hasRead).opened_eq
    (by rwa [FilePath.same, BEq.comm]) hopen' hopen
  obtain rfl := FileSystem.Opened.file.inj hcontent
  obtain ⟨kept, hsorts, -⟩ := w.sorts
  obtain ⟨other, houtranks, hoffset⟩ := hsorts.outranked hd x.1.reader hread y.1.reader hgiven _ hopen
    (by rwa [FilePath.same, BEq.comm]) (by rwa [Fingerprint.matchesWith_comm])
  exact ⟨_, y.1.reader, other, ⟨houtranks.opened, houtranks.bound, houtranks.known,
    houtranks.candidate, houtranks.unbound, houtranks.known_other, houtranks.longer⟩, hgiven,
    x.1.reader, hread, rfl, hoffset⟩

/-- **What a poll delivers of one path stands at different places**, unless the path is outranked. -/
theorem delivers_apart (h : w.follower.Reachable Checkpoint.Distinct settings)
    {nl cr : Bytes} {width : Nat} (hr : settings.framing = .newline nl cr width) :
    (∃ read flushed, Account w read flushed) ∧
      ∀ read flushed, Account w read flushed →
        w.poll.2.sink.accepted =
          w.sink.accepted ++ (quotations (read ++ flushed)).map (·.2.event) ∧
        (quotations (read ++ flushed)).Pairwise fun a b => FilePath.same a.1 b.1 = true →
          w.Outranked a.1 ∨ a.2.place.Apart b.2.place := by
  have hcuts : w.follower.settings.framing.CutsFront := by
    rw [h.idle.settings_eq, hr]
    exact Framing.cutsFront_newline nl cr width
  refine ⟨exists_account hcuts, fun read flushed ha => ⟨ha.accepted hcuts, ?_⟩⟩
  obtain ⟨kept, hsorts, hdistinct⟩ := w.sorts
  have hread : DistinctPaths ((read.map Prod.fst).map (·.reader)) := by
    rw [ha.readings, readings, map_reader_passages]
    exact hdistinct.sublist ((List.sublist_append_right kept _).map _)
  have hflushed : DistinctPaths ((flushed.map Prod.fst).map (·.reader)) := by
    rw [ha.flushes, flushes, map_reader_passages, readers_settled]
    exact h.distinctPaths.sublist (hsorts.readers.map _)
  have hother {x y : Passage × List Excerpt}
      (hne : FilePath.same x.1.reader.path y.1.reader.path = false) : ∀ d ∈ x.2, ∀ e ∈ y.2,
      FilePath.same x.1.reader.path y.1.reader.path = true →
        w.Outranked x.1.reader.path ∨ d.place.Apart e.place := by
    intro d _ e _ hs
    rw [hne] at hs
    cases hs
  refine pairwise_quotations (fun x hx => ?_) ?_
  · have hquotes : x.2.Pairwise fun d e => d.place.stop ≤ e.place.start :=
      (List.mem_append.mp hx).elim (fun hx => (ha.quotes_read x hx).excerpts.ordered)
        fun hx => (ha.quotes_flushed x hx).excerpts.ordered
    exact hquotes.imp fun hle _ => .inr (.inl hle)
  · refine List.pairwise_append.mpr ⟨hread.pairwise_passages.imp hother,
      hflushed.pairwise_passages.imp hother, fun x hx y hy d hd e he hs => .inl ?_⟩
    exact ha.outranked h.distinctPaths hcuts hx hy (List.ne_nil_of_mem hd) (List.ne_nil_of_mem he) hs

/-- What the first poll of two log files delivers stands apart. -/
theorem delivers_apart_ofLogs :
    let w := ofLogs [0x78, 0x0A] [0x79, 0x0A]
    w.follower.Reachable Checkpoint.Distinct .logs ∧
    Settings.logs.framing = .newline [0x0A] [0x0D] 1 ∧
    (∃ read flushed, Account w read flushed) ∧
      ∀ read flushed, Account w read flushed →
        w.poll.2.sink.accepted =
          w.sink.accepted ++ (quotations (read ++ flushed)).map (·.2.event) ∧
        (quotations (read ++ flushed)).Pairwise fun a b => FilePath.same a.1 b.1 = true →
          w.Outranked a.1 ∨ a.2.place.Apart b.2.place := by
  intro w
  have hreachable : w.follower.Reachable Checkpoint.Distinct .logs :=
    Follower.Reachable.new ⟨false, []⟩
  exact ⟨hreachable, rfl, delivers_apart hreachable rfl⟩

/-! ## A line that is delivered twice -/

/-- The poll after the first one of two log files, the second of which goes on as the first does: the
first has got the lines `y` and `z`, and the second has been emptied. -/
def overtaken : World where
  follower := (ofLogs [0x78, 0x0A] [0x78, 0x0A, 0x79, 0x0A]).poll.2.follower
  fs := .twoLogs [0x78, 0x0A, 0x79, 0x0A, 0x7A, 0x0A] []
  sink := .healthy

namespace overtaken

/-- The reader that is bound to the first log file, behind `x`. -/
def given : Reader :=
  .behindLog (.twoLogs [0x78, 0x0A] [0x78, 0x0A, 0x79, 0x0A]) "a.log" [0x78, 0x0A]

/-- The reader that is bound to the second log file, behind `y`. -/
def other : Reader :=
  .behindLog (.twoLogs [0x78, 0x0A] [0x78, 0x0A, 0x79, 0x0A]) "b.log" [0x78, 0x0A, 0x79, 0x0A]

/-- The reader that goes on with the first log file. -/
def found : Reader :=
  { Reader.inherit Settings.logs.toReadSettings overtaken.fs "a.log"
      (.ofContent 1000 [0x78, 0x0A, 0x79, 0x0A, 0x7A, 0x0A]) other with generation := 2 }

theorem reachable : overtaken.follower.Reachable Checkpoint.Distinct .logs := by
  have h : (ofLogs [0x78, 0x0A] [0x78, 0x0A, 0x79, 0x0A]).follower.Reachable Checkpoint.Distinct
      .logs := .new ⟨false, []⟩
  rw [overtaken]
  exact h.poll_snd

/-- The candidates when the poll begins. -/
def begun : Registry :=
  { candidates := [some given, some other], startAtBeginning := true, generation := 2 }

/-- The candidate that is left when the paths have been resolved. -/
def left : Registry :=
  { candidates := [some given, none], startAtBeginning := true, generation := 2 }

theorem beginPoll_eq : overtaken.follower.registry.beginPoll = begun := by
  have ha : ([0x78, 0x0A] : Bytes) ≠ [] := List.cons_ne_nil _ _
  have hb : ([0x78, 0x0A, 0x79, 0x0A] : Bytes) ≠ [] := List.cons_ne_nil _ _
  have hcandidates : overtaken.follower.registry.candidates = [some given, some other] := by
    refine (candidates_poll (ofLogs [0x78, 0x0A] [0x78, 0x0A, 0x79, 0x0A])).trans ?_
    rw [readers_ofLogs ha hb ⟨by decide, by decide⟩ ⟨by decide, by decide⟩]
    rfl
  have hgeneration : overtaken.follower.registry.generation = 1 := by
    refine (generation_poll (ofLogs [0x78, 0x0A] [0x78, 0x0A, 0x79, 0x0A])).trans ?_
    rw [resolved_ofLogs ha hb]
  rw [Registry.beginPoll, hgeneration]
  exact congr (congr (congr (congrArg Registry.mk hcandidates) reachable.idle.current)
    reachable.idle.beginning) rfl

theorem openPath_eq : overtaken.fs.openPath "a.log" =
      .ok (.file [0x78, 0x0A, 0x79, 0x0A, 0x7A, 0x0A]) ∧
    overtaken.fs.openPath "b.log" = .ok (.file []) :=
  FileSystem.openPath_twoLogs _ _

/-- The first path is resolved to the reader of the second, and its own reader is left. -/
theorem resolved_eq :
    overtaken.resolved = ([found], { overtaken.follower with registry := left }) := by
  have hset : overtaken.follower.settings = .logs := reachable.idle.settings_eq
  -- Both readers know the file at the first path, and the reader of the second knows more of it.
  have hbest : begun.best? "a.log" (.ofContent Settings.logs.fingerprintSize
      [0x78, 0x0A, 0x79, 0x0A, 0x7A, 0x0A]) = some (1, other) := by
    decide
  have hfirst : Follower.resolvePath { overtaken.follower with registry := begun } overtaken.fs
      "a.log" = (some found, left) := by
    rw [Follower.resolvePath_file (by exact hset ▸ Settings.logs_thorough.recognises) openPath_eq.1,
      if_neg (List.cons_ne_nil _ _), Registry.without]
    simp only [hset]
    rw [hbest]
    rfl
  have hsecond : Follower.resolvePath { overtaken.follower with registry := left } overtaken.fs
      "b.log" = (none, left) := by
    rw [Follower.resolvePath_file (by exact hset ▸ Settings.logs_thorough.recognises) openPath_eq.2,
      if_pos rfl]
  rw [resolved, beginPoll_eq, hset, show Settings.logs.finder.find overtaken.fs =
    ["a.log", "b.log"] from Finder.find_twoLogs _ _, Follower.resolveAll, hfirst]
  simp only
  rw [Follower.resolveAll, hsecond]
  rfl

/-- A reading of the first log file. -/
def passage (r : Reader) (sink : Sink) (flush : Bool) : Passage :=
  ⟨r, sink, r.readOpened Settings.logs.toReadSettings sink
    (.file [0x78, 0x0A, 0x79, 0x0A, 0x7A, 0x0A]) flush⟩

/-- The reading of the reader that is found. -/
def reading : Passage := passage found .healthy false

/-- The last reading of the reader that is given up. -/
def flush : Passage := passage given reading.reading.sink true

theorem passage_eq {r : Reader} (hp : r.path = "a.log") (ho : r.offset ≤ 6) (sink : Sink)
    (flush : Bool) : r.read Settings.logs.toReadSettings overtaken.fs sink flush =
      (passage r sink flush).reading :=
  Reader.read_of_openPath (hp ▸ openPath_eq.1) ho sink flush

theorem readings_eq : overtaken.readings = ([reading], reading.reading.sink) := by
  have hread : found.readToEnd Settings.logs.toReadSettings overtaken.fs .healthy =
      reading.reading := passage_eq rfl (by decide) .healthy false
  rw [readings, resolved_eq, reachable.idle.settings_eq, passages_cons]
  change ([(⟨found, .healthy, found.readToEnd Settings.logs.toReadSettings overtaken.fs .healthy⟩ :
    Passage)], (found.readToEnd Settings.logs.toReadSettings overtaken.fs .healthy).sink) = _
  rw [hread]
  rfl

theorem settled_eq :
    overtaken.settled.fs = overtaken.fs ∧ overtaken.settled.sink = reading.reading.sink := by
  have hsettings : overtaken.hasRead.follower.settings = overtaken.follower.settings :=
    resolved_settings _
  have hkeeps : overtaken.hasRead.follower.settings.deleteAfterRead = false := by
    rw [hsettings, reachable.idle.settings_eq]
    rfl
  rw [settled, foldl_settle _ hkeeps]
  exact ⟨rfl, congrArg Prod.snd readings_eq⟩

theorem flushes_eq : overtaken.flushes.1 = [flush] := by
  have hreaders : left.readers = [given] := rfl
  have hretire (sink : Sink) : given.retire Settings.logs.toReadSettings overtaken.fs sink =
      (passage given sink true).reading := by
    rw [Reader.retire, show overtaken.fs.openPath given.path = _ from openPath_eq.1]
    exact passage_eq rfl (by decide) sink true
  rw [flushes, readers_settled, resolved_eq, reachable.idle.settings_eq, settled_eq.1, settled_eq.2,
    hreaders, passages_cons, hretire]
  rfl

theorem delivered_eq : reading.delivered.map (·.body) = [.text "z"] ∧
    flush.delivered.map (·.body) = [.text "y", .text "z"] := by
  decide +kernel

/-- The line `z` stands at one place only. -/
theorem place_eq {x : Passage} {excerpts : List Excerpt} (hp : x.reader.path = "a.log")
    (h : x.Quotes Settings.logs.toReadSettings overtaken.fs excerpts) {e : Excerpt}
    (he : e ∈ excerpts) (hz : e.event.body = .text "z") : e.place.start = 4 ∧ e.place.stop = 5 := by
  have hplaces : ∀ i < 7, ∀ j < 7, Settings.logs.encoding.body
      (Bytes.slice [0x78, 0x0A, 0x79, 0x0A, 0x7A, 0x0A] i j) = .text "z" → i = 4 ∧ j = 5 := by
    decide
  have hcontent : overtaken.fs.contentAt x.reader.path = [0x78, 0x0A, 0x79, 0x0A, 0x7A, 0x0A] := by
    rw [FileSystem.contentAt, hp, openPath_eq.1]
  have hw := h.excerpts.within e he
  have hbody := h.excerpts.bodies e he
  rw [hcontent] at hw hbody
  simp only [List.length_cons, List.length_nil] at hw
  exact hplaces _ (by omega) _ (by omega) (hbody.symm.trans hz)

variable {read flushed : List (Passage × List Excerpt)}

theorem read_eq (h : Account overtaken read flushed) : ∃ e : Excerpt, read = [(reading, [e])] ∧
    e.event.body = .text "z" ∧ e.place.start = 4 ∧ e.place.stop = 5 := by
  obtain ⟨⟨x, excerpts⟩, rfl, hx⟩ := List.map_eq_singleton_iff.mp
    (h.readings.trans (congrArg Prod.fst readings_eq))
  obtain rfl : x = reading := hx
  have hq := h.quotes_read _ (List.mem_singleton_self _)
  have hbodies := delivered_eq.1
  rw [hq.delivered, List.map_map] at hbodies
  obtain ⟨e, rfl, he⟩ := List.map_eq_singleton_iff.mp hbodies
  rw [reachable.idle.settings_eq] at hq
  exact ⟨e, rfl, he, place_eq rfl hq List.mem_cons_self he⟩

theorem flushed_eq (h : Account overtaken read flushed) : ∃ e e' : Excerpt,
    flushed = [(flush, [e, e'])] ∧ e.event.body = .text "y" ∧ e'.event.body = .text "z" ∧
    e'.place.start = 4 ∧ e'.place.stop = 5 := by
  obtain ⟨⟨x, excerpts⟩, rfl, hx⟩ := List.map_eq_singleton_iff.mp (h.flushes.trans flushes_eq)
  obtain rfl : x = flush := hx
  have hq := h.quotes_flushed _ (List.mem_singleton_self _)
  have hbodies := delivered_eq.2
  rw [hq.delivered, List.map_map] at hbodies
  obtain ⟨e, _, rfl, he, hrest⟩ := List.map_eq_cons_iff.mp hbodies
  obtain ⟨e', rfl, he'⟩ := List.map_eq_singleton_iff.mp hrest
  rw [reachable.idle.settings_eq, settled_eq.1] at hq
  exact ⟨e, e', rfl, he, he', place_eq rfl hq (List.mem_cons_of_mem _ List.mem_cons_self) he'⟩

end overtaken

/-- The line `z` is delivered twice in one poll: by the reader that goes on with the file, and by the one
that is bound to its path, as it is given up. -/
theorem delivers_twice :
    overtaken.follower.Reachable Checkpoint.Distinct .logs ∧
    Settings.logs.framing = .newline [0x0A] [0x0D] 1 ∧ overtaken.sink = .healthy ∧
    (∃ read flushed, Account overtaken read flushed) ∧
    ∀ read flushed, Account overtaken read flushed →
      (quotations (read ++ flushed)).map (·.2.event.body) = [.text "z", .text "y", .text "z"] ∧
      ¬ (quotations (read ++ flushed)).Pairwise fun a b => FilePath.same a.1 b.1 = true →
        a.2.place.Apart b.2.place := by
  have hcuts : overtaken.follower.settings.framing.CutsFront := by
    rw [overtaken.reachable.idle.settings_eq]
    exact Framing.cutsFront_newline _ _ _
  refine ⟨overtaken.reachable, rfl, rfl, exists_account hcuts, fun read flushed h => ?_⟩
  obtain ⟨e, rfl, he, hstart, hstop⟩ := overtaken.read_eq h
  obtain ⟨e₁, e₂, rfl, he₁, he₂, hstart₂, hstop₂⟩ := overtaken.flushed_eq h
  have hquotations : quotations ([(overtaken.reading, [e])] ++ [(overtaken.flush, [e₁, e₂])]) =
      [("a.log", e), ("a.log", e₁), ("a.log", e₂)] := rfl
  rw [hquotations]
  refine ⟨?_, fun hapart => ?_⟩
  · rw [List.map_cons, List.map_cons, List.map_cons, he, he₁, he₂, List.map_nil]
  · have hz : e.place.Apart e₂.place :=
      List.rel_of_pairwise_cons hapart (List.mem_cons_of_mem _ List.mem_cons_self)
        (FilePath.same_iff.mpr rfl)
    rw [Span.Apart] at hz
    omega

end World

end LogFollow
