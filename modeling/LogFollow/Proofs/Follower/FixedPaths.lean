import LogFollow.Proofs.Follower.Following
import Mathlib.Data.List.Find

/-!
# Following files that stay at their paths

Candidates are ranked by the length of the common beginning before their paths count. Files that are
only appended to keep their readers nevertheless, unless a path that is found later has a reader that
knows a file better than the reader of its own path does.
-/
namespace LogFollow

namespace Files

variable {ι : Type}

/-- The fingerprint of the file at a path, without bytes where no file stands. -/
def fingerprintAt (files : Files ι) (limit : Nat) (path : String) : Fingerprint :=
  .ofContent limit (((files.owner path).bind files.content).getD [])

theorem fingerprintAt_eq {files : Files ι} {path : String} {id : ι} {bytes : Bytes}
    (ho : files.owner path = some id) (hc : files.content id = some bytes) (limit : Nat) :
    files.fingerprintAt limit path = .ofContent limit bytes := by
  rw [fingerprintAt, ho, Option.bind_some, hc, Option.getD_some]

end Files

namespace Follower

variable {ι : Type}

/-- The reader that is bound to a path. -/
def boundTo (f : Follower) (path : String) : Option Reader :=
  f.registry.readers.find? fun r => r.path = path

/-- The reader of `q` has not known more of what is the file at `p` now than the reader of `p`. -/
def Yields (settings : Settings) (before files : Files ι) (p q : String) : Prop :=
  (before.fingerprintAt settings.fingerprintSize q).matchesWith
      (files.fingerprintAt settings.fingerprintSize p) = true →
    min (before.fingerprintAt settings.fingerprintSize q).size
        (files.fingerprintAt settings.fingerprintSize p).size ≤
      (before.fingerprintAt settings.fingerprintSize p).size

instance (settings : Settings) (before files : Files ι) (p q : String) :
    Decidable (Yields settings before files p q) :=
  inferInstanceAs (Decidable (_ → _))

/-- The readers of the paths that a poll finds later yield to those of the paths that it finds
earlier. -/
def Undisputed (settings : Settings) (before files : Files ι) (fs : FileSystem) : Prop :=
  (settings.finder.find fs).Pairwise (Yields settings before files)

instance (settings : Settings) (before files : Files ι) (fs : FileSystem) :
    Decidable (Undisputed settings before files fs) :=
  inferInstanceAs (Decidable (List.Pairwise _ _))

/-- Between two polls files are appended to or made, and nothing else. -/
structure Stays (settings : Settings) (before files : Files ι) (w : World) : Prop where
  evolves : Files.Evolves before files
  stays : ∀ path id, before.owner path = some id → files.owner path = some id
  shown : Files.Shows settings.finder w.fs before files
  fit : files.Fit settings.maxLogSize

variable {settings : Settings} {before files : Files ι} {log : ι → List Event} {f : Follower}

theorem boundTo_eq_some_iff (hd : (f.registry.readers.map (·.path)).Nodup) {path : String}
    {r : Reader} : f.boundTo path = some r ↔ r ∈ f.registry.readers ∧ r.path = path := by
  rw [boundTo, find?_eq_some_iff_of_unique, decide_eq_true_eq]
  intro r hr r' hr' hpath hpath'
  rw [decide_eq_true_eq] at hpath hpath'
  exact List.inj_on_of_nodup_map hd hr hr' (hpath.trans hpath'.symm)

theorem Follows.boundTo_eq_some_iff (h : Follows settings before log f) {path : String}
    {r : Reader} : f.boundTo path = some r ↔ r ∈ f.registry.readers ∧ r.path = path :=
  Follower.boundTo_eq_some_iff h.distinct

/-- A reader has the fingerprint that its file had in the last poll. -/
theorem Follows.fingerprint (h : Follows settings before log f) {r : Reader}
    (hr : r ∈ f.registry.readers) :
    r.fingerprint = before.fingerprintAt settings.fingerprintSize r.path := by
  obtain ⟨id, front, rest, ho, hc, -, hst⟩ := h.stands r hr
  rw [hst.fingerprint, Files.fingerprintAt_eq ho hc]

/-- A path has a reader if its file had bytes in the last poll. -/
theorem Follows.exists_boundTo (h : Follows settings before log f) (path : String)
    (hp : 0 < (before.fingerprintAt settings.fingerprintSize path).size) :
    ∃ r, f.boundTo path = some r := by
  cases ho : before.owner path with
  | none =>
    rw [Files.fingerprintAt, ho] at hp
    exact absurd (Fingerprint.size_ofContent_nil _) (Nat.ne_of_gt hp)
  | some id =>
    obtain ⟨bytes, hc⟩ := h.valid.exists_content ho
    rw [Files.fingerprintAt_eq ho hc] at hp
    have hne : before.content id ≠ some [] := by
      rw [hc]
      rintro ⟨⟩
      exact absurd (Fingerprint.size_ofContent_nil _) (Nat.ne_of_gt hp)
    obtain ⟨r, hr, hown⟩ := h.read path id ho hne
    exact ⟨r, h.boundTo_eq_some_iff.mpr ⟨hr, h.valid.injective _ _ _ hown ho⟩⟩

variable {w : World}

/-- The files at a path grow. -/
theorem Stays.fingerprintAt_grows (h : Stays settings before files w) {path : String} {id : ι}
    (ho : before.owner path = some id) {bytes : Bytes} (hc : before.content id = some bytes)
    (limit : Nat) : ∃ more, files.fingerprintAt limit path = .ofContent limit (bytes ++ more) := by
  obtain ⟨more, hm⟩ := h.evolves.grows id bytes hc
  exact ⟨more, Files.fingerprintAt_eq (h.stays path id ho) hm limit⟩

theorem Stays.found (h : Stays settings before files w)
    (hf : Follows settings before log w.follower) {r : Reader}
    (hr : r ∈ w.follower.registry.readers) : r.path ∈ settings.finder.find w.fs := by
  obtain ⟨id, _, _, ho, _⟩ := hf.stands r hr
  exact (h.shown.found r.path).mpr ⟨id, h.stays r.path id ho⟩

/-- The reader of a path matches the file there, by all that it has known of it. -/
theorem Stays.own (h : Stays settings before files w) (hs : settings.Thorough)
    (hf : Follows settings before log w.follower) {r : Reader}
    (hr : r ∈ w.follower.registry.readers) :
    r.fingerprint.matchesWith (files.fingerprintAt settings.fingerprintSize r.path) = true ∧
      r.fingerprint.size ≤ (files.fingerprintAt settings.fingerprintSize r.path).size := by
  obtain ⟨id, front, rest, ho, hc, hne, hst⟩ := hf.stands r hr
  obtain ⟨more, hm⟩ := h.fingerprintAt_grows ho hc settings.fingerprintSize
  rw [hst.fingerprint, hm]
  exact ⟨Fingerprint.ofContent_matchesWith_append hs.recognises hs.recognises hne more,
    Fingerprint.size_ofContent_le _ _ _⟩

/-- While a path is resolved the candidates are the readers of the paths that were not resolved
before. -/
theorem Stays.mem_remaining (hf : Follows settings before log w.follower) {done : List String}
    {g : Registry} (hg : Remains w.follower.boundTo done w.follower.registry.beginPoll g)
    {r : Reader} : r ∈ g.readers ↔ r ∈ w.follower.registry.readers ∧ r.path ∉ done := by
  rw [hg.readers (List.Nodup.of_map _ hf.distinct)]
  refine and_congr_right fun hr => ⟨fun hall hm => ?_, fun hm p hp hb => ?_⟩
  · exact hall r.path hm (hf.boundTo_eq_some_iff.mpr ⟨hr, rfl⟩)
  · rw [← (hf.boundTo_eq_some_iff.mp hb).2] at hp
    exact hm hp

/-- A reader that has known no more of a file ranks below the one that is bound to its path. -/
theorem Stays.not_atMost_of_yields (h : Stays settings before files w) (hs : settings.Thorough)
    (hf : Follows settings before log w.follower) {own r : Reader}
    (hown : own ∈ w.follower.registry.readers) (hr : r ∈ w.follower.registry.readers)
    (hother : FilePath.same r.path own.path = false)
    (hyields : Yields settings before files own.path r.path)
    (hmatch : r.fingerprint.matchesWith
      (files.fingerprintAt settings.fingerprintSize own.path) = true) :
    ¬ (Registry.rank own.path (files.fingerprintAt settings.fingerprintSize own.path) own).atMost
      (Registry.rank own.path (files.fingerprintAt settings.fingerprintSize own.path) r) =
        true := by
  have hle := hyields (hf.fingerprint hr ▸ hmatch)
  rw [← hf.fingerprint hr, ← hf.fingerprint hown] at hle
  have hsize := (h.own hs hf hown).2
  have hbound : FilePath.same own.path own.path = true := beq_self_eq_true _
  rw [Registry.Rank.atMost_iff]
  simp only [Registry.rank, hother, hbound, Bool.toNat_true, Bool.toNat_false]
  omega

/-- The best candidate for a path is the reader that is bound to it just if the readers of the paths
behind it yield to it. -/
theorem Stays.best_iff (h : Stays settings before files w) (hs : settings.Thorough)
    (hf : Follows settings before log w.follower) {done : List String} {path : String}
    {rest : List String} (hsplit : settings.finder.find w.fs = done ++ path :: rest)
    {g : Registry} (hg : Remains w.follower.boundTo done w.follower.registry.beginPoll g) :
    (g.best? path (files.fingerprintAt settings.fingerprintSize path)).map Prod.snd =
        w.follower.boundTo path ↔
      ∀ q ∈ rest, Yields settings before files path q := by
  obtain ⟨hpath, hrest⟩ := Finder.split_spec hsplit
  have hbehind : ∀ r ∈ g.readers, r ∈ w.follower.registry.readers ∧
      (r.path = path ∨ r.path ∈ rest) := by
    intro r hr
    obtain ⟨hmem, hdone⟩ := (Stays.mem_remaining hf hg).mp hr
    have hfound := h.found hf hmem
    rw [hsplit, List.mem_append, List.mem_cons] at hfound
    exact ⟨hmem, hfound.resolve_left hdone⟩
  constructor
  · intro hb q hq hmatch
    -- The reader of `q` is a candidate, so that it does not rank above the one that is chosen.
    obtain ⟨r, hr⟩ := hf.exists_boundTo q (Fingerprint.size_pos_of_matchesWith hmatch).1
    obtain ⟨hmem, rfl⟩ := hf.boundTo_eq_some_iff.mp hr
    have hleft : r ∈ g.readers := (Stays.mem_remaining hf hg).mpr ⟨hmem, (hrest _ hq).1⟩
    rw [← hf.fingerprint hmem] at hmatch ⊢
    rcases g.best?_spec path (files.fingerprintAt settings.fingerprintSize path) with
      ⟨-, hnone⟩ | ⟨i, own, hown, hbest⟩
    · rw [hnone r hleft] at hmatch
      cases hmatch
    · rw [hown, Option.map_some] at hb
      change some own = _ at hb
      obtain ⟨hownmem, rfl⟩ := hf.boundTo_eq_some_iff.mp hb.symm
      rw [← hf.fingerprint hownmem]
      have hrank := Registry.Rank.common_le_of_atMost (hbest.best r hleft hmatch)
      simp only [Registry.rank] at hrank
      omega
  · intro hyields
    cases hown : w.follower.boundTo path with
    | none =>
      rcases g.best?_spec path (files.fingerprintAt settings.fingerprintSize path) with
        ⟨hb, -⟩ | ⟨i, r, -, hbest⟩
      · rw [hb]
        rfl
      · exfalso
        -- A candidate could only be the reader of a later path, and would not yield.
        obtain ⟨hmem, hp | hp⟩ := hbehind r (Registry.mem_readers.mpr ⟨i, hbest.slot⟩)
        · rw [hf.boundTo_eq_some_iff.mpr ⟨hmem, hp⟩] at hown
          cases hown
        · have hle := hyields r.path hp (hf.fingerprint hmem ▸ hbest.hit)
          have hpos := Fingerprint.size_pos_of_matchesWith hbest.hit
          rw [← hf.fingerprint hmem] at hle
          obtain ⟨own, hown'⟩ := hf.exists_boundTo path (by omega)
          rw [hown] at hown'
          cases hown'
    | some own =>
      obtain ⟨hmem, rfl⟩ := hf.boundTo_eq_some_iff.mp hown
      refine Registry.best?_eq_of_beats ((Stays.mem_remaining hf hg).mpr ⟨hmem, hpath⟩)
        (h.own hs hf hmem).1 fun r hr hmatch hrank => ?_
      obtain ⟨hrmem, hp | hp⟩ := hbehind r hr
      · rw [hf.boundTo_eq_some_iff.mpr ⟨hrmem, hp⟩] at hown
        exact Option.some.inj hown
      · exact absurd hrank (h.not_atMost_of_yields hs hf hmem hrmem (hrest _ hp).2
          (hyields _ hp) hmatch)

/-- In each path's turn the best candidate is the reader that is bound to it, just if no path is
disputed. -/
theorem Stays.recognises_iff (h : Stays settings before files w) (hs : settings.Thorough)
    (hf : Follows settings before log w.follower) :
    Recognises w.fs w.follower.boundTo
        { w.follower with registry := w.follower.registry.beginPoll }
        (settings.finder.find w.fs) ↔
      Undisputed settings before files w.fs := by
  refine Follower.recognises_iff (by rw [hf.settings_eq]; exact hs.recognises) (fun path hp => ?_) ?_
  · obtain ⟨_, bytes, _, _, hopen⟩ := h.shown.of_mem_find h.evolves.valid hp
    exact ⟨bytes, hopen⟩
  · intro done path rest hsplit g hg content hcontent
    obtain ⟨id, bytes, ho, hc, hopen⟩ := h.shown.of_mem_find h.evolves.valid
      (hsplit ▸ List.mem_append_right _ List.mem_cons_self)
    rw [hopen] at hcontent
    cases hcontent
    rw [hf.settings_eq, ← Files.fingerprintAt_eq ho hc]
    exact h.best_iff hs hf hsplit hg

variable [DecidableEq ι]

/-- What has read a file before is the reader that is bound to its path. -/
theorem Stays.priorOf_eq (h : Stays settings before files w)
    (hf : Follows settings before log w.follower) :
    priorOf before files w.follower = w.follower.boundTo := by
  funext path
  refine List.find?_congr fun r hr => ?_
  obtain ⟨id, _, _, ho, _⟩ := hf.stands r hr
  have hstays := h.stays r.path id ho
  rw [decide_eq_decide, ho]
  constructor
  · exact fun hpath => h.evolves.valid.injective _ _ id hstays hpath.symm
  · rintro rfl
    exact hstays.symm

theorem Stays.ready (h : Stays settings before files w) (hs : settings.Thorough)
    (hf : Follows settings before log w.follower) (hu : Undisputed settings before files w.fs) :
    World.Ready settings before files log w where
  follows := hf
  evolves := h.evolves
  shown := h.shown
  fit := h.fit
  recognises := by
    rw [h.priorOf_eq hf]
    exact (h.recognises_iff hs hf).mpr hu
  quiet r hr hprior _ := by
    rw [h.priorOf_eq hf] at hprior
    exact absurd (hf.boundTo_eq_some_iff.mpr ⟨hr, rfl⟩) (hprior r.path (h.found hf hr))

/-- **Files that stay at their paths keep their own readers, as long as no path is disputed**, and each
line is logged once then. -/
theorem Run.keeps_readers (hs : settings.Thorough)
    (h : Run (fun before files w => Stays settings before files w ∧
      Undisputed settings before files w.fs) settings before w.follower log)
    (ht : Stays settings before files w) :
    (Recognises w.fs w.follower.boundTo
        { w.follower with registry := w.follower.registry.beginPoll }
        (settings.finder.find w.fs) ↔
      Undisputed settings before files w.fs) ∧
    (Undisputed settings before files w.fs → w.Logged settings files log) := by
  have hf := h.follows hs fun _ _ _ _ ht hf => ht.1.ready hs hf ht.2
  exact ⟨ht.recognises_iff hs hf, fun hu => (ht.ready hs hf hu).logged hs⟩

/-! ### Two files that begin alike -/

open Function (update)

/-- The file `x` at `a.log`, and `x`, `y` at `b.log`. -/
def alikeFiles : Files Bool where
  owner := update (update (fun _ => none) "a.log" (some false)) "b.log" (some true)
  content := update (update (fun _ => none) false (some [0x78, 0x0A])) true
    (some [0x78, 0x0A, 0x79, 0x0A])

/-- The second file has got the line `z`. -/
def longerFiles : Files Bool where
  owner := alikeFiles.owner
  content := update alikeFiles.content true (some [0x78, 0x0A, 0x79, 0x0A, 0x7A, 0x0A])

/-- The first file has got the lines `y` and `z`. -/
def grownFiles : Files Bool where
  owner := alikeFiles.owner
  content := update alikeFiles.content false (some [0x78, 0x0A, 0x79, 0x0A, 0x7A, 0x0A])

/-- The poll that finds the files. -/
def alikePoll : World where
  follower := new .logs ⟨false, []⟩
  fs := .twoLogs [0x78, 0x0A] [0x78, 0x0A, 0x79, 0x0A]
  sink := .healthy

/-- The poll after the second file has grown. -/
def longerPoll : World where
  follower := alikePoll.poll.2.follower
  fs := .twoLogs [0x78, 0x0A] [0x78, 0x0A, 0x79, 0x0A, 0x7A, 0x0A]
  sink := .healthy

/-- The poll after the first file has grown. -/
def grownPoll : World where
  follower := alikePoll.poll.2.follower
  fs := .twoLogs [0x78, 0x0A, 0x79, 0x0A, 0x7A, 0x0A] [0x78, 0x0A, 0x79, 0x0A]
  sink := .healthy

theorem alikeFiles_owner (path : String) (id : Bool) : alikeFiles.owner path = some id ↔
    path = "a.log" ∧ id = false ∨ path = "b.log" ∧ id = true := by
  simp only [alikeFiles, Function.update_apply]
  grind

theorem stays_alikePoll : Stays .logs .nothing alikeFiles alikePoll where
  evolves := Files.Changes.evolves (.tail (.single (.create "a.log" false [0x78, 0x0A] rfl rfl))
    (.create "b.log" true [0x78, 0x0A, 0x79, 0x0A] rfl rfl)) Files.valid_nothing
  stays _ _ h := nomatch h
  shown := Files.shows_twoLogs alikeFiles_owner rfl rfl fun _ _ h => nomatch h
  fit := Files.fit_twoLogs alikeFiles_owner rfl rfl ⟨by decide, by decide⟩
    ⟨by decide, by decide⟩

theorem undisputed_alikePoll : Undisputed .logs (.nothing : Files Bool) alikeFiles alikePoll.fs := by
  refine List.pairwise_of_forall fun p q hmatch => ?_
  have hpos := (Fingerprint.size_pos_of_matchesWith hmatch).1
  exact absurd (Fingerprint.size_ofContent_nil _) (Nat.ne_of_gt hpos)

/-- What is logged of the files when the first of them grows. -/
def alikeLog (id : Bool) : List Event := [] ++ alikePoll.gained alikeFiles id

theorem run_alikePoll : Run (fun before files w => Stays .logs before files w ∧
    Undisputed .logs before files w.fs) .logs alikeFiles longerPoll.follower alikeLog :=
  .poll alikeFiles alikePoll (.start ⟨false, []⟩ alikePoll.fs _ rfl rfl)
    ⟨stays_alikePoll, undisputed_alikePoll⟩

theorem stays_longerPoll : Stays .logs alikeFiles longerFiles longerPoll where
  evolves := Files.Changes.evolves (.single (.append "b.log" true [0x78, 0x0A, 0x79, 0x0A]
    [0x7A, 0x0A] rfl rfl)) stays_alikePoll.evolves.valid
  stays _ _ h := h
  shown := Files.shows_twoLogs alikeFiles_owner rfl rfl fun path id h =>
    ((alikeFiles_owner path id).mp h).imp And.left And.left
  fit := Files.fit_twoLogs alikeFiles_owner rfl rfl ⟨by decide, by decide⟩
    ⟨by decide, by decide⟩

theorem undisputed_longerPoll : Undisputed .logs alikeFiles longerFiles longerPoll.fs := by
  rw [Undisputed, show Settings.logs.finder.find longerPoll.fs = ["a.log", "b.log"] from
    Finder.find_twoLogs _ _]
  decide

/-- Readers that match each other's files do no harm as long as the one of the first path has known
all that its file shares with the other. -/
theorem keeps_readers_of_longer : Settings.logs.Thorough ∧
    Run (fun before files w => Stays .logs before files w ∧ Undisputed .logs before files w.fs)
      .logs alikeFiles longerPoll.follower alikeLog ∧
    Stays .logs alikeFiles longerFiles longerPoll ∧
    Undisputed .logs alikeFiles longerFiles longerPoll.fs ∧
    longerPoll.Logged .logs longerFiles alikeLog :=
  ⟨Settings.logs_thorough, run_alikePoll, stays_longerPoll, undisputed_longerPoll,
    (Run.keeps_readers Settings.logs_thorough run_alikePoll stays_longerPoll).2
      undisputed_longerPoll⟩

theorem stays_grownPoll : Stays .logs alikeFiles grownFiles grownPoll where
  evolves := Files.Changes.evolves (.single (.append "a.log" false [0x78, 0x0A]
    [0x79, 0x0A, 0x7A, 0x0A] rfl rfl)) stays_alikePoll.evolves.valid
  stays _ _ h := h
  shown := Files.shows_twoLogs alikeFiles_owner rfl rfl fun path id h =>
    ((alikeFiles_owner path id).mp h).imp And.left And.left
  fit := Files.fit_twoLogs alikeFiles_owner rfl rfl ⟨by decide, by decide⟩
    ⟨by decide, by decide⟩

theorem not_undisputed_grownPoll : ¬ Undisputed .logs alikeFiles grownFiles grownPoll.fs := by
  rw [Undisputed, show Settings.logs.finder.find grownPoll.fs = ["a.log", "b.log"] from
    Finder.find_twoLogs _ _]
  decide

theorem follows_grownPoll : Follows .logs alikeFiles alikeLog grownPoll.follower :=
  run_alikePoll.follows Settings.logs_thorough fun _ _ _ _ ht hf =>
    ht.1.ready Settings.logs_thorough hf ht.2

theorem alikeLog_eq {id : Bool} {bytes : Bytes} (hc : alikeFiles.content id = some bytes) :
    (alikeLog id).map (·.body) =
      (Lines.contents bytes).map Settings.logs.encoding.body := by
  obtain ⟨f, hload, hf⟩ := follows_new (ι := Bool) Settings.logs_thorough ⟨false, []⟩ rfl
    alikePoll.fs
  cases hload
  have hlogged := (stays_alikePoll.ready Settings.logs_thorough hf undisputed_alikePoll).logged
    Settings.logs_thorough
  cases id with
  | false => exact hlogged.complete Sink.healthy_willing "a.log" false bytes rfl hc
  | true => exact hlogged.complete Sink.healthy_willing "b.log" true bytes rfl hc

/-- Each file has a reader, which knows all of it. -/
theorem alike_readers : ∃ first second : Reader,
    (∀ r, r ∈ grownPoll.follower.registry.readers ↔ r = first ∨ r = second) ∧
    first.path = "a.log" ∧ first.fingerprint = ⟨[0x78, 0x0A]⟩ ∧
    second.path = "b.log" ∧ second.fingerprint = ⟨[0x78, 0x0A, 0x79, 0x0A]⟩ ∧
    second.offset = 4 := by
  have hreaders : grownPoll.follower.registry.readers =
      [.behindLog alikePoll.fs "a.log" [0x78, 0x0A],
        .behindLog alikePoll.fs "b.log" [0x78, 0x0A, 0x79, 0x0A]] :=
    World.readers_ofLogs (List.cons_ne_nil _ _) (List.cons_ne_nil _ _) ⟨by decide, by decide⟩
      ⟨by decide, by decide⟩
  refine ⟨.behindLog alikePoll.fs "a.log" [0x78, 0x0A],
    .behindLog alikePoll.fs "b.log" [0x78, 0x0A, 0x79, 0x0A], fun r => ?_, rfl, rfl, rfl, rfl, rfl⟩
  rw [hreaders, List.mem_pair]

/-- The reader that a path is matched with when the first file has grown: the other one. -/
def crossed (first second : Reader) (path : String) : Option Reader :=
  if path = "a.log" then some second else some first

theorem recognises_crossed {first second : Reader}
    (hreaders : ∀ r, r ∈ grownPoll.follower.registry.readers ↔ r = first ∨ r = second)
    (hfirst : first.fingerprint = ⟨[0x78, 0x0A]⟩)
    (hsecond : second.fingerprint = ⟨[0x78, 0x0A, 0x79, 0x0A]⟩) :
    Recognises grownPoll.fs (crossed first second)
      { grownPoll.follower with registry := grownPoll.follower.registry.beginPoll }
      ["a.log", "b.log"] := by
  have hf := follows_grownPoll
  have hshown := stays_grownPoll.shown
  have hopen₁ := hshown.opens "a.log" false _ rfl rfl
  have hopen₂ := hshown.opens "b.log" true _ rfl rfl
  refine (recognises_iff (R := fun _ _ => True) (by rw [hf.settings_eq]; decide)
    (fun path hp => ?_) ?_).mpr (List.pairwise_of_forall fun _ _ => trivial)
  · rw [List.mem_pair] at hp
    rcases hp with rfl | rfl
    · exact ⟨_, hopen₁⟩
    · exact ⟨_, hopen₂⟩
  · intro done path rest hsplit g hg content hc
    refine ⟨fun _ _ _ => trivial, fun _ => ?_⟩
    have hmem : ∀ r, r ∈ g.readers ↔ (r = first ∨ r = second) ∧
        ∀ path ∈ done, crossed first second path ≠ some r := by
      intro r
      rw [← hreaders]
      exact hg.readers (List.Nodup.of_map _ hf.distinct) r
    rw [hf.settings_eq]
    rcases done with _ | ⟨p, _ | ⟨q, done⟩⟩
    · cases hsplit
      rw [hopen₁] at hc
      cases hc
      -- Both readers match, and the second one has known more bytes.
      refine Registry.best?_eq_of_beats ((hmem second).mpr ⟨.inr rfl, nofun⟩)
        (by rw [hsecond]; decide) fun c hc _ hrank => ?_
      rcases ((hmem c).mp hc).1 with rfl | rfl
      · have hcommon := Registry.Rank.common_le_of_atMost hrank
        rw [Registry.rank, Registry.rank, hfirst, hsecond] at hcommon
        change 4 ≤ 2 at hcommon
        omega
      · rfl
    · cases hsplit
      rw [hopen₂] at hc
      cases hc
      have hne : first ≠ second := by
        rintro rfl
        rw [hfirst] at hsecond
        cases hsecond
      have hleft : ∀ r, r ∈ g.readers ↔ r = first := by
        intro r
        rw [hmem]
        simp only [List.mem_singleton, forall_eq, crossed, if_true, ne_eq, Option.some.injEq]
        grind
      exact Registry.best?_eq_of_beats ((hleft first).mpr rfl) (by rw [hfirst]; decide)
        fun c hc _ _ => (hleft c).mp hc
    · have hlen := congrArg List.length hsplit
      simp only [List.length_cons, List.length_append, List.length_nil] at hlen
      omega

/-- The reader of the second file goes on with the first one, behind `x` and `y`. -/
theorem resolved_grownPoll : ∃ r₁ r₂ g,
    grownPoll.resolved = ([r₁, r₂], { grownPoll.follower with registry := g }) ∧ g.readers = [] ∧
    r₁.path = "a.log" ∧ r₁.offset = 4 ∧
    r₁.fingerprint = .ofContent 1000 [0x78, 0x0A, 0x79, 0x0A, 0x7A, 0x0A] ∧
    r₂.path = "b.log" := by
  have hf := follows_grownPoll
  have hset : grownPoll.follower.settings = .logs := hf.settings_eq
  have hopen₁ := stays_grownPoll.shown.opens "a.log" false _ rfl rfl
  have hopen₂ := stays_grownPoll.shown.opens "b.log" true _ rfl rfl
  obtain ⟨first, second, hreaders, -, hfirst, -, hsecond, hoffset⟩ := alike_readers
  obtain ⟨g, hg, hrem⟩ := resolveAll_eq ["a.log", "b.log"]
    (f := { grownPoll.follower with registry := grownPoll.follower.registry.beginPoll })
    (by rw [hset]; decide) (fun path hp => by
      rcases List.mem_pair.mp hp with rfl | rfl
      · exact ⟨_, hopen₁⟩
      · exact ⟨_, hopen₂⟩)
    (recognises_crossed hreaders hfirst hsecond)
  obtain ⟨r₁, hr₁, hpath₁, hoffset₁, hfingerprint₁⟩ : ∃ r, follow
      { grownPoll.follower with registry := grownPoll.follower.registry.beginPoll } grownPoll.fs
      (crossed first second) "a.log" = some r ∧ r.path = "a.log" ∧ r.offset = 4 ∧
      r.fingerprint = .ofContent 1000 [0x78, 0x0A, 0x79, 0x0A, 0x7A, 0x0A] := by
    rw [follow, hopen₁]
    simp only [if_neg (List.cons_ne_nil _ _), hset]
    exact ⟨_, rfl, rfl, hoffset, rfl⟩
  obtain ⟨r₂, hr₂, hpath₂⟩ : ∃ r, follow
      { grownPoll.follower with registry := grownPoll.follower.registry.beginPoll } grownPoll.fs
      (crossed first second) "b.log" = some r ∧ r.path = "b.log" := by
    rw [follow, hopen₂]
    simp only [if_neg (List.cons_ne_nil _ _)]
    exact ⟨_, rfl, rfl⟩
  refine ⟨r₁, r₂, g, ?_, ?_, hpath₁, hoffset₁, hfingerprint₁, hpath₂⟩
  · rw [List.filterMap_cons_some hr₁, List.filterMap_cons_some hr₂] at hg
    rw [World.resolved, hset, show Settings.logs.finder.find grownPoll.fs = ["a.log", "b.log"] from
      Finder.find_twoLogs _ _]
    exact hg
  · refine List.eq_nil_iff_forall_not_mem.mpr fun r hr => ?_
    obtain ⟨hmem, hcrossed⟩ := (hrem.readers (List.Nodup.of_map _ hf.distinct) r).mp hr
    rcases (hreaders r).mp hmem with rfl | rfl
    · exact hcrossed "b.log" (by simp) rfl
    · exact hcrossed "a.log" (by simp) rfl

theorem gained_grownPoll : (grownPoll.gained grownFiles false).map (·.body) = [.text "z"] := by
  have hset : grownPoll.follower.settings = .logs := follows_grownPoll.settings_eq
  have hopen₁ := stays_grownPoll.shown.opens "a.log" false _ rfl rfl
  obtain ⟨r₁, r₂, g, hresolved, hleft, hpath₁, hoffset₁, hfingerprint₁, hpath₂⟩ :=
    resolved_grownPoll
  have hgained : grownPoll.gained grownFiles false = Passage.delivered ⟨r₁, grownPoll.sink,
      r₁.readToEnd Settings.logs.toReadSettings grownPoll.fs grownPoll.sink⟩ := by
    rw [World.gained, World.journal, World.retirings, World.readings, hresolved, hleft, hset,
      passages_cons, passages_cons]
    simp only [passages, List.append_nil, List.map_cons, List.map_nil]
    rw [List.filter_cons_of_pos (by rw [hpath₁]; rfl),
      List.filter_cons_of_neg (by rw [hpath₂]; exact Bool.false_ne_true), List.filter_nil,
      List.flatMap_cons, List.flatMap_nil, List.append_nil]
  -- The reader stands behind `x` and `y`, as the second file's log says.
  have hst : r₁.Stands Settings.logs.toReadSettings (alikeLog true) [0x78, 0x0A, 0x79, 0x0A]
      [0x7A, 0x0A] := ⟨by decide, hoffset₁, alikeLog_eq rfl, hfingerprint₁⟩
  obtain ⟨more, front, rest, hmore, hsplit, hst', -, hw⟩ := hst.read Settings.logs_thorough.plain
    ⟨by decide, by decide⟩ (by rw [hpath₁]; exact hopen₁) grownPoll.sink
  obtain ⟨rfl, -⟩ := hw Sink.healthy_willing
  rw [List.append_nil] at hsplit
  have hevents := hst'.events
  rw [List.map_append, hst.events, ← hsplit] at hevents
  have hlines : (Lines.contents [0x78, 0x0A, 0x79, 0x0A]).map Settings.logs.encoding.body =
      [.text "x", .text "y"] := by rfl
  have hall : (Lines.contents [0x78, 0x0A, 0x79, 0x0A, 0x7A, 0x0A]).map
      Settings.logs.encoding.body = [.text "x", .text "y"] ++ [.text "z"] := by rfl
  rw [hgained, Passage.delivered, hmore, List.drop_left]
  exact List.append_cancel_left (hlines ▸ hevents.trans hall)

/-- A line of a file can be lost though the file stays at its path: the reader of the other file goes on
with it, behind the line `y` that both have. -/
theorem loses_line_of_disputed :
    Run (Stays .logs) .logs alikeFiles grownPoll.follower alikeLog ∧
    Stays .logs alikeFiles grownFiles grownPoll ∧
    (∀ path id, grownFiles.owner path = some id → alikeFiles.content id ≠ some []) ∧
    grownPoll.sink.Willing ∧
    ¬ Recognises grownPoll.fs grownPoll.follower.boundTo
        { grownPoll.follower with registry := grownPoll.follower.registry.beginPoll }
        (Settings.logs.finder.find grownPoll.fs) ∧
    (alikeLog false ++ grownPoll.gained grownFiles false).map (·.body) =
      [.text "x", .text "z"] := by
  have hf := follows_grownPoll
  refine ⟨.poll alikeFiles alikePoll (.start ⟨false, []⟩ alikePoll.fs _ rfl rfl) stays_alikePoll,
    stays_grownPoll, ?_, Sink.healthy_willing, ?_, ?_⟩
  · intro path id _
    cases id <;> decide
  · rw [stays_grownPoll.recognises_iff Settings.logs_thorough hf]
    exact not_undisputed_grownPoll
  · have hfirst : (alikeLog false).map (·.body) = [.text "x"] := (alikeLog_eq rfl).trans (by rfl)
    rw [List.map_append, hfirst, gained_grownPoll]
    rfl

end Follower

end LogFollow
