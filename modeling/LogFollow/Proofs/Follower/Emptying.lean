import LogFollow.Proofs.Follower.Deleting

/-!
# No file is deleted before it is delivered

In a poll each file that is left is either read to its end, and then it is deleted and all its events have
been accepted, or it stays, with a reader that stands behind its last event. A willing sink leaves no file.
By induction over the polls, the events of a file that is gone are just those of its lines and its tail.
-/
namespace LogFollow

namespace World

open Follower (Tends)

variable {settings : Settings} {stock left : Stock} {log : String → List Event} {w : World}
  {path : String} {bytes : Bytes}

/-- What becomes of a file in a poll. -/
inductive Fate (settings : Settings) (log : String → List Event) (w : World) (path : String)
    (bytes : Bytes) : Prop
  | deleted : w.poll.2.fs.Vacant path →
      (log path ++ w.taken path).map (·.body) =
        (Lines.tokens bytes).map settings.encoding.body → Fate settings log w path bytes
  | kept {front back : Bytes} {r : Reader} : bytes = front ++ back →
      w.poll.2.fs.Regular path bytes → r ∈ w.poll.2.follower.registry.readers → r.path = path →
      r.Consumed settings.toReadSettings (log path ++ w.taken path) front back →
      ¬ w.sink.Willing → Fate settings log w path bytes

theorem Stocked.exists_reading (h : Stocked settings stock left log w) (hs : settings.Deleting)
    (hl : left path = some bytes) : ∃ x ∈ w.readings.1, x.reader.path = path := by
  have hp : path ∈ w.readings.1.map (·.reader.path) := by
    rw [h.paths_readings hs]
    exact (h.held.found path).mpr ⟨bytes, hl⟩
  exact List.mem_map.mp hp

theorem Stocked.taken_of_not_left (h : Stocked settings stock left log w) (hs : settings.Deleting)
    (hl : left path = none) : w.taken path = [] := by
  refine (h.known hs).taken_of_unread fun x hx hpath => ?_
  obtain ⟨bytes, _, _, hleft, -⟩ := h.read hs hx
  rw [hpath, hl] at hleft
  cases hleft

theorem fs_poll_eq_settled (w : World) : w.poll.2.fs = w.settled.fs := by
  rw [poll_snd]

theorem mem_deletedBy {settings : ReadSettings} {readings : List Reading} :
    path ∈ deletedBy settings readings ↔
      ∃ reading ∈ readings, deletes settings reading.outcome = true ∧
        reading.reader.path = path := by
  rw [deletedBy, List.mem_map]
  constructor
  · rintro ⟨reading, hm, hp⟩
    obtain ⟨hm, hdel⟩ := List.mem_filter.mp hm
    exact ⟨reading, hm, hdel, hp⟩
  · rintro ⟨reading, hm, hdel, hp⟩
    exact ⟨reading, List.mem_filter.mpr ⟨hm, hdel⟩, hp⟩

theorem Stocked.settings_hasRead (h : Stocked settings stock left log w) :
    w.hasRead.follower.settings = settings :=
  w.resolved_settings.trans h.tends.settings_eq

/-- The readers of a poll are those whose files are not deleted. -/
theorem Stocked.readers_poll_eq (h : Stocked settings stock left log w) (hs : settings.Deleting) :
    w.poll.2.follower.registry.readers = ((w.readings.1.map (·.reading)).filter fun reading =>
      !deletes settings.toReadSettings reading.outcome).map (·.reader) := by
  have hcurrent := (h.settles hs).current
  rw [h.settings_hasRead] at hcurrent
  rw [readers_poll, hcurrent, show w.hasRead.follower.registry.current = [] from
    (h.known hs).current_resolved, List.nil_append]

/-- A file is deleted just if its reading has come to the end. -/
theorem Stocked.mem_deletedBy_iff (h : Stocked settings stock left log w) (hs : settings.Deleting)
    {x : Passage} (hx : x ∈ w.readings.1) :
    x.reader.path ∈ deletedBy settings.toReadSettings (w.readings.1.map (·.reading)) ↔
      deletes settings.toReadSettings x.reading.outcome = true := by
  rw [mem_deletedBy]
  constructor
  · rintro ⟨reading, hm, hdel, hp⟩
    obtain ⟨y, hy, rfl⟩ := List.mem_map.mp hm
    rw [h.path_reading hs hy] at hp
    rwa [← List.inj_on_of_nodup_map (h.known hs).nodup_paths hy hx hp]
  · exact fun hdel => ⟨x.reading, List.mem_map_of_mem hx, hdel, h.path_reading hs hx⟩

theorem Stocked.regular_of_not_deletes (h : Stocked settings stock left log w)
    (hs : settings.Deleting) {x : Passage} (hx : x ∈ w.readings.1)
    (hdel : ¬ deletes settings.toReadSettings x.reading.outcome = true)
    (hl : left x.reader.path = some bytes) : w.poll.2.fs.Regular x.reader.path bytes := by
  rw [fs_poll_eq_settled]
  refine (h.settles hs).held.regular x.reader.path bytes (Stock.without_eq_some_iff.mpr ⟨?_, hl⟩)
  rw [h.settings_hasRead, h.mem_deletedBy_iff hs hx]
  exact hdel

/-- **A file that is left is deleted when all of it has been delivered, and stays otherwise.** -/
theorem Stocked.fate (h : Stocked settings stock left log w) (hs : settings.Deleting)
    (hl : left path = some bytes) : Fate settings log w path bytes := by
  obtain ⟨x, hx, rfl⟩ := h.exists_reading hs hl
  obtain ⟨bytes', front, back, hleft, hc⟩ := h.read hs hx
  obtain rfl : bytes = bytes' := Option.some.inj (hl.symm.trans hleft)
  have htaken := (h.known hs).taken_eq hx
  have hconsumed := hc.consumed
  rw [← Passage.delivered, ← htaken] at hconsumed
  by_cases hdel : deletes settings.toReadSettings x.reading.outcome = true
  · obtain ⟨n, hn⟩ := (deletes_iff hs.deletes _).mp hdel
    have hgone := (h.settles hs).gone x.reader.path (by
      rw [h.settings_hasRead]
      exact (h.mem_deletedBy_iff hs hx).mpr hdel)
    have hsplit := hc.split
    rw [hc.complete n hn, List.append_nil] at hsplit
    refine .deleted ?_ ?_
    · rw [fs_poll_eq_settled]
      exact hgone
    · rw [hconsumed.events, hsplit]
  · refine .kept (r := x.reading.reader) hc.split (h.regular_of_not_deletes hs hx hdel hl) ?_ hc.path
      hconsumed fun hw => hdel ?_
    · rw [h.readers_poll_eq hs]
      refine List.mem_map_of_mem (List.mem_filter.mpr ⟨List.mem_map_of_mem hx, ?_⟩)
      rw [Bool.eq_false_iff.mpr hdel]
      rfl
    · -- no reading before this one has spoilt the sink
      have hbefore : x.before.Willing := by
        refine before_passages (fun r hr sink hsink => ?_) hw hx
        obtain ⟨_, _, _, -, hc⟩ := h.reads hs hr sink
        exact (hc.willing hsink).1
      exact (deletes_iff hs.deletes _).mpr (hc.willing hbefore).2

theorem Fate.leaves (h : Fate settings log w path bytes) (hl : left path = some bytes) :
    (w.leaves left path = none ∧ (log path ++ w.taken path).map (·.body) =
        (Lines.tokens bytes).map settings.encoding.body) ∨
      w.leaves left path = some bytes ∧ ∃ r ∈ w.poll.2.follower.registry.readers, r.path = path := by
  cases h with
  | deleted hv hevents =>
    left
    rw [World.leaves, hv.present]
    exact ⟨rfl, hevents⟩
  | kept _ hr hm hp _ _ =>
    right
    rw [World.leaves, hr.present, if_pos rfl]
    exact ⟨hl, _, hm, hp⟩

theorem leaves_within (w : World) (left : Stock) : (w.leaves left).Within left := by
  intro path bytes h
  rw [leaves] at h
  split at h
  · exact h
  · cases h

/-- **The files that a poll leaves stand as before, and are found by the next one.** -/
theorem Stocked.held_poll (h : Stocked settings stock left log w) (hs : settings.Deleting) :
    (w.leaves left).Held settings.finder w.poll.2.fs := by
  have hsettles := h.settles hs
  have hleaves : w.leaves left = left.without
      (deletedBy w.hasRead.follower.settings.toReadSettings (w.readings.1.map (·.reading))) := by
    funext path
    rw [leaves, Stock.without, fs_poll_eq_settled]
    split
    · next hpresent =>
      rw [if_neg fun hm => ?_]
      rw [(hsettles.gone path hm).present] at hpresent
      cases hpresent
    · next habsent =>
      split
      · rfl
      · next hm =>
        cases hl : left path with
        | none => rfl
        | some bytes =>
          have hregular := hsettles.held.regular path bytes (Stock.without_eq_some_iff.mpr ⟨hm, hl⟩)
          exact absurd hregular.present habsent
  rw [hleaves, fs_poll_eq_settled]
  exact hsettles.held

/-- The file of each reader that a poll leaves is still there. -/
theorem Stocked.left_of_mem_readers_poll (h : Stocked settings stock left log w)
    (hs : settings.Deleting) {r : Reader} (hr : r ∈ w.poll.2.follower.registry.readers) :
    ∃ bytes, left r.path = some bytes ∧ w.poll.2.fs.Regular r.path bytes := by
  rw [h.readers_poll_eq hs] at hr
  obtain ⟨reading, hm, rfl⟩ := List.mem_map.mp hr
  obtain ⟨hm, hkept⟩ := List.mem_filter.mp hm
  obtain ⟨x, hx, rfl⟩ := List.mem_map.mp hm
  obtain ⟨bytes, _, _, hleft, -⟩ := h.read hs hx
  have hdel : ¬ deletes settings.toReadSettings x.reading.outcome = true := by simpa using hkept
  rw [h.path_reading hs hx]
  exact ⟨bytes, hleft, h.regular_of_not_deletes hs hx hdel hleft⟩

theorem Stocked.distinct_readers_poll (h : Stocked settings stock left log w)
    (hs : settings.Deleting) : (w.poll.2.follower.registry.readers.map (·.path)).Nodup := by
  rw [h.readers_poll_eq hs, List.map_map]
  exact (h.nodup_read_paths hs).sublist (List.filter_sublist.map _)

/-- **A poll keeps the events of each file with its reader.** -/
theorem Stocked.tends_poll (h : Stocked settings stock left log w) (hs : settings.Deleting) :
    Tends settings stock (w.leaves left) (fun path => log path ++ w.taken path) w.poll.2.follower := by
  have hbeginning := h.tends.beginning
  obtain ⟨hset, hbegin, hcurrent⟩ : w.poll.2.follower.Idle settings := w.poll_idle
    ⟨h.tends.settings_eq, by rw [hbeginning, decide_eq_true hs.beginning], h.tends.current⟩
  have hleft := w.leaves_within left
  refine ⟨hset, by rw [hbegin, decide_eq_true hs.beginning], hcurrent,
    fun path bytes hl => h.tends.within path bytes (hleft path bytes hl),
    h.distinct_readers_poll hs, fun r hr => ?_, fun path bytes hl hno => ?_,
    fun path bytes hstock hl => ?_⟩
  · obtain ⟨bytes, hl, hregular⟩ := h.left_of_mem_readers_poll hs hr
    have hleaves : w.leaves left r.path = some bytes := by
      rw [leaves, hregular.present, if_pos rfl, hl]
    cases h.fate hs hl with
    | deleted hv _ => exact absurd (hv.present.symm.trans hregular.present) Bool.false_ne_true
    | kept hsplit _ hr' hp hconsumed _ =>
      obtain rfl := List.inj_on_of_nodup_map (h.distinct_readers_poll hs) hr' hr hp
      exact ⟨_, _, hsplit ▸ hleaves, hconsumed⟩
  · rcases (h.fate hs (hleft path bytes hl)).leaves (hleft path bytes hl) with ⟨hgone, -⟩ |
      ⟨-, r, hr, hp⟩
    · rw [hl] at hgone
      cases hgone
    · exact absurd hp (hno r hr)
  · cases hbefore : left path with
    | none =>
      rw [h.taken_of_not_left hs hbefore, List.append_nil]
      exact h.tends.gone path bytes hstock hbefore
    | some bytes' =>
      obtain rfl : bytes = bytes' :=
        Option.some.inj (hstock.symm.trans (h.tends.within path bytes' hbefore))
      rcases (h.fate hs hbefore).leaves hbefore with ⟨-, hevents⟩ | ⟨hstill, -⟩
      · exact hevents
      · rw [hl] at hstill
        cases hstill

/-- What a poll puts into the sink is what it takes from the files that are left. -/
theorem Stocked.accounted (h : Stocked settings stock left log w) (hs : settings.Deleting) :
    w.poll.2.sink.accepted = w.sink.accepted ++ w.deliveries.flatMap (·.2) ∧
      ∀ entry ∈ w.deliveries, ∃ bytes, left entry.1 = some bytes := by
  have haccepted := accepted_passages
    (fun r sink => r.readToEnd w.follower.settings.toReadSettings w.fs sink) w.resolved.1
    (fun r hr sink => by
      obtain ⟨_, _, _, -, hc⟩ := h.reads hs hr sink
      exact hc.accepted) w.sink
  rw [(h.known hs).deliveries_eq]
  constructor
  · have hsink : w.poll.2.sink = w.readings.2 := by
      rw [poll_snd]
      change w.flushes.2 = w.readings.2
      rw [(h.known hs).flushes_eq]
    rw [hsink, List.flatMap_map]
    exact haccepted
  · intro entry hentry
    obtain ⟨x, hx, rfl⟩ := List.mem_map.mp hentry
    obtain ⟨bytes, _, _, hleft, -⟩ := h.read hs hx
    exact ⟨bytes, hleft⟩

/-- A cancelled poll takes nothing, so that only files can be deleted that were delivered before. -/
theorem Stocked.leaves_of_cancelled (h : Stocked settings stock left log w) (hs : settings.Deleting)
    (hc : w.sink.cancelled = true) (hl : left path = some bytes)
    (hne : (log path).map (·.body) ≠ (Lines.tokens bytes).map settings.encoding.body) :
    w.leaves left path = some bytes := by
  obtain ⟨x, hx, rfl⟩ := h.exists_reading hs hl
  obtain ⟨_, _, _, _, hconsumes⟩ := h.read hs hx
  have hbefore : x.before.cancelled = true := by
    refine before_passages (P := fun sink => sink.cancelled = true) (fun r hr sink hsink => ?_) hc hx
    obtain ⟨_, _, _, -, hconsumes⟩ := h.reads hs hr sink
    rw [hconsumes.cancelled hsink]
    exact hsink
  have hnothing : x.delivered = [] := by
    rw [Passage.delivered, hconsumes.cancelled hbefore, List.drop_length]
  rcases (h.fate hs hl).leaves hl with ⟨-, hevents⟩ | ⟨hstill, -⟩
  · rw [(h.known hs).taken_eq hx, hnothing, List.append_nil] at hevents
    exact absurd hevents hne
  · exact hstill

/-- What is known when a poll has ended. The events of a file that is gone are just those of its lines and
of its tail, each once and in order. A file that is still there has a reader, whose offset is just behind
the last event that was accepted of the file, and the next poll will find it. A poll with a willing sink
leaves no file. What was put into the sink was taken from the files, and nothing else. -/
structure Saved (settings : Settings) (stock left : Stock) (log : String → List Event)
    (w : World) : Prop where
  gone : ∀ path bytes, stock path = some bytes → w.leaves left path = none →
    (log path ++ w.taken path).map (·.body) = (Lines.tokens bytes).map settings.encoding.body
  still : ∀ path bytes, w.leaves left path = some bytes → w.poll.2.fs.Regular path bytes ∧
    ∃ r ∈ w.poll.2.follower.registry.readers, r.path = path ∧ ∃ front back,
      bytes = front ++ back ∧ (Lines.tail front = [] ∨ back = []) ∧ r.offset = front.length ∧
      (log path ++ w.taken path).map (·.body) = (Lines.tokens front).map settings.encoding.body
  found : ∀ path, path ∈ settings.finder.find w.poll.2.fs ↔ ∃ bytes, w.leaves left path = some bytes
  emptied : w.sink.Willing → ∀ path bytes, left path = some bytes →
    w.poll.2.fs.present path = false
  accepted : w.poll.2.sink.accepted = w.sink.accepted ++ w.deliveries.flatMap (·.2)
  owned : ∀ entry ∈ w.deliveries, ∃ bytes, left entry.1 = some bytes

theorem Stocked.saved (h : Stocked settings stock left log w) (hs : settings.Deleting) :
    Saved settings stock left log w := by
  have htends := h.tends_poll hs
  obtain ⟨haccepted, howned⟩ := h.accounted hs
  refine ⟨htends.gone, fun path bytes hl => ?_, (h.held_poll hs).found, fun hw path bytes hl => ?_,
    haccepted, howned⟩
  · cases h.fate hs (w.leaves_within left path bytes hl) with
    | deleted hv _ =>
      rw [leaves, hv.present] at hl
      cases hl
    | @kept front back r hsplit hregular hr hp hc _ =>
      exact ⟨hregular, r, hr, hp, front, back, hsplit, hc.ended, hc.offset, hc.events⟩
  · cases h.fate hs hl with
    | deleted hv _ => exact hv.present
    | kept _ _ _ _ _ hno => exact absurd hw hno

end World

/-! ## Polls one after another -/

namespace Follower

/-- The polls of a follower that begins with an empty store and a stock of files, with the files that are
left, the file system, and the events of each file so far. Each poll has a sink of its own, which may be
cancelled in front of any item of any file, so also between two files. Between the polls anything may
change in the file system but the files that are left, and no others come to be found. -/
inductive Sweeps (settings : Settings) (stock : Stock) :
    Stock → Follower → FileSystem → (String → List Event) → Prop
  | start (store : CheckpointStore) (fs : FileSystem) (f : Follower) :
      store.load settings.id = .ok [] → (new settings store).load fs = .ok f →
      stock.Held settings.finder fs → Sweeps settings stock stock f fs fun _ => []
  | poll {left : Stock} {log : String → List Event} (w : World) :
      Sweeps settings stock left w.follower w.fs log →
      Sweeps settings stock (w.leaves left) w.poll.2.follower w.poll.2.fs
        fun path => log path ++ w.taken path
  | elsewhere {left : Stock} {f : Follower} {fs : FileSystem} {log : String → List Event}
      (fs' : FileSystem) : Sweeps settings stock left f fs log → left.Held settings.finder fs' →
      Sweeps settings stock left f fs' log

variable {settings : Settings} {stock left : Stock} {log : String → List Event} {f : Follower}
  {fs : FileSystem}

theorem Sweeps.tends (hs : settings.Deleting) (hsep : stock.Separate settings.toReadSettings)
    (h : Sweeps settings stock left f fs log) :
    Tends settings stock left log f ∧ left.Held settings.finder fs := by
  induction h with
  | start store fs f hstore hload hheld => exact ⟨tends_new hs hstore hload, hheld⟩
  | poll w _ ih =>
    have hstocked : World.Stocked settings stock _ _ w := ⟨hsep, ih.1, ih.2⟩
    exact ⟨hstocked.tends_poll hs, hstocked.held_poll hs⟩
  | elsewhere _ _ hheld ih => exact ⟨ih.1, hheld⟩

theorem Sweeps.stocked (hs : settings.Deleting) (hsep : stock.Separate settings.toReadSettings)
    {w : World} (h : Sweeps settings stock left w.follower w.fs log) :
    World.Stocked settings stock left log w := by
  obtain ⟨htends, hheld⟩ := h.tends hs hsep
  exact ⟨hsep, htends, hheld⟩

/-- **No file is deleted before all of it is delivered**, whatever the sinks of the polls do, and no
event is lost or repeated. -/
theorem Sweeps.saves (hs : settings.Deleting) (hsep : stock.Separate settings.toReadSettings)
    {w : World} (h : Sweeps settings stock left w.follower w.fs log) :
    w.Saved settings stock left log :=
  (h.stocked hs hsep).saved hs

end Follower

/-! ### Two log files, and a poll that is cancelled -/

/-- The log files in the home directory are followed, and each is deleted when it is read. -/
def Settings.emptying : Settings := { Settings.logs with deleteAfterRead := true }

theorem Settings.emptying_deleting : Settings.emptying.Deleting where
  plain := ⟨rfl, rfl, rfl, by decide⟩
  deletes := rfl
  recognises := by decide
  beginning := rfl

/-- The files `a.log` and `b.log`. -/
def Stock.ofLogs (a b : Bytes) : Stock := fun path =>
  if path = "a.log" then some a else if path = "b.log" then some b else none

namespace Stock

variable {a b : Bytes}

theorem ofLogs_eq_some_iff {path : String} {bytes : Bytes} :
    ofLogs a b path = some bytes ↔
      path = "a.log" ∧ a = bytes ∨ path = "b.log" ∧ b = bytes := by
  unfold ofLogs
  by_cases ha : path = "a.log"
  · simp [ha]
  · by_cases hb : path = "b.log" <;> simp [ha, hb]

theorem tree_twoLogs (a b : Bytes) : (FileSystem.twoLogs a b).Tree := by
  have hnodes {entry : Place × Node} (h : entry ∈ (FileSystem.twoLogs a b).nodes) :
      entry.1 = ["work"] ∨ entry.1 = ["work", "a.log"] ∨ entry.1 = ["work", "b.log"] := by
    simp only [FileSystem.twoLogs, List.mem_cons, List.not_mem_nil, or_false] at h
    rcases h with rfl | rfl | rfl <;> simp
  refine ⟨rfl, fun place node h => ?_, fun entry h name hlast => ?_⟩
  · by_cases hnil : place = []
    · rw [hnil]
      rfl
    · have hplace : place = ["work"] ∨ place = ["work", "a.log"] ∨ place = ["work", "b.log"] :=
        hnodes (FileSystem.mem_nodes hnil h)
      rcases hplace with rfl | rfl | rfl <;> rfl
  · have hname : name = "work" ∨ name = "a.log" ∨ name = "b.log" := by
      rcases hnodes h with hplace | hplace | hplace
      all_goals
        rw [hplace] at hlast
        cases hlast
        simp
    rcases hname with rfl | rfl | rfl
    all_goals exact ⟨by decide, by decide, by decide, by decide, by decide⟩

theorem held_twoLogs (a b : Bytes) : (ofLogs a b).Held .logs (.twoLogs a b) where
  tree := tree_twoLogs a b
  regular path bytes h := by
    rcases ofLogs_eq_some_iff.mp h with ⟨rfl, rfl⟩ | ⟨rfl, rfl⟩
    · exact ⟨_, FileSystem.resolve_name FileSystem.isName_logs.1 rfl rfl false⟩
    · exact ⟨_, FileSystem.resolve_name FileSystem.isName_logs.2 rfl rfl false⟩
  found path := by
    rw [Finder.find_twoLogs, List.mem_pair]
    simp only [ofLogs_eq_some_iff]
    constructor
    · rintro (rfl | rfl)
      · exact ⟨a, .inl ⟨rfl, rfl⟩⟩
      · exact ⟨b, .inr ⟨rfl, rfl⟩⟩
    · rintro ⟨_, ⟨rfl, -⟩ | ⟨rfl, -⟩⟩
      · exact .inl rfl
      · exact .inr rfl

/-- The lines `x` and `y`, and `z` without a newline. -/
abbrev xyz : Stock := ofLogs [0x78, 0x0A, 0x79, 0x0A] [0x7A]

theorem separate_xyz : xyz.Separate Settings.emptying.toReadSettings where
  nonempty path bytes h := by
    rcases ofLogs_eq_some_iff.mp h with ⟨-, rfl⟩ | ⟨-, rfl⟩ <;> exact List.cons_ne_nil _ _
  short path bytes h := by
    refine (Lines.short_iff _ _).mpr ?_
    rcases ofLogs_eq_some_iff.mp h with ⟨-, rfl⟩ | ⟨-, rfl⟩ <;> decide
  apart p q bytes bytes' hp hq hne := by
    rcases ofLogs_eq_some_iff.mp hp with ⟨rfl, rfl⟩ | ⟨rfl, rfl⟩ <;>
      rcases ofLogs_eq_some_iff.mp hq with ⟨rfl, rfl⟩ | ⟨rfl, rfl⟩
    · exact absurd rfl hne
    · decide
    · decide
    · exact absurd rfl hne

end Stock

/-- The poll that is cancelled. -/
def cancelledPoll : World where
  follower := .new .emptying ⟨false, []⟩
  fs := .twoLogs [0x78, 0x0A, 0x79, 0x0A] [0x7A]
  sink := { reaction := fun _ => .accept, cancelled := true }

/-- The poll after it. -/
def emptyingPoll : World where
  follower := cancelledPoll.poll.2.follower
  fs := cancelledPoll.poll.2.fs
  sink := .healthy

namespace Follower

open World (Stocked)

theorem sweeps_new :
    Sweeps .emptying .xyz .xyz cancelledPoll.follower cancelledPoll.fs fun _ => [] :=
  .start ⟨false, []⟩ cancelledPoll.fs _ rfl rfl (Stock.held_twoLogs _ _)

/-- The poll that is cancelled leaves the files where they are. -/
theorem leaves_cancelledPoll : cancelledPoll.leaves .xyz = .xyz := by
  funext path
  cases hl : Stock.xyz path with
  | none =>
    cases hleaves : cancelledPoll.leaves .xyz path with
    | none => rfl
    | some bytes =>
      rw [World.leaves_within _ _ path bytes hleaves] at hl
      cases hl
  | some bytes =>
    have hstocked : Stocked .emptying .xyz .xyz (fun _ => []) cancelledPoll :=
      sweeps_new.stocked Settings.emptying_deleting Stock.separate_xyz
    refine hstocked.leaves_of_cancelled Settings.emptying_deleting rfl hl ?_
    rcases Stock.ofLogs_eq_some_iff.mp hl with ⟨-, rfl⟩ | ⟨-, rfl⟩ <;> decide

/-- What the files have delivered before the second poll: nothing. -/
def logOfCancelled (path : String) : List Event := [] ++ cancelledPoll.taken path

theorem saves_emptyingPoll : Settings.emptying.Deleting ∧
    Stock.xyz.Separate Settings.emptying.toReadSettings ∧
    Sweeps .emptying .xyz .xyz emptyingPoll.follower emptyingPoll.fs logOfCancelled ∧
    emptyingPoll.Saved .emptying .xyz .xyz logOfCancelled ∧
    ∀ path bytes, Stock.xyz path = some bytes → emptyingPoll.poll.2.fs.present path = false := by
  have hsweeps : Sweeps .emptying .xyz (cancelledPoll.leaves .xyz) emptyingPoll.follower
      emptyingPoll.fs logOfCancelled := .poll cancelledPoll sweeps_new
  rw [leaves_cancelledPoll] at hsweeps
  have hsaved := hsweeps.saves Settings.emptying_deleting Stock.separate_xyz
  exact ⟨Settings.emptying_deleting, Stock.separate_xyz, hsweeps, hsaved,
    hsaved.emptied Sink.healthy_willing⟩

end Follower

end LogFollow
