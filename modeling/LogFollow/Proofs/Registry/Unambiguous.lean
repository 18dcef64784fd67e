import LogFollow.Proofs.Registry.Conservation

/-!
# The order in which files are resolved

Each file that is resolved may take a candidate away from those that are resolved after it. If no file is
known by two candidates and no candidate knows two files, this makes no difference: a file is given what it
would be given alone, and what is left are the candidates that know none of the files.
-/
namespace LogFollow

/-- Whether the fingerprint of a reader matches what was opened. -/
def Reader.knows (r : Reader) (limit : Nat) (opened : FileSystem.Opened) : Bool :=
  match opened.fingerprint limit with
  | .ok fingerprint => r.fingerprint.matchesWith fingerprint
  | .error _ => false

namespace Registry

/-! ## Fewer candidates -/

/-- The registry with just those candidates that pass a test; the slots of the others are empty. -/
def retain (g : Registry) (p : Reader → Bool) : Registry :=
  { g with candidates := g.candidates.map (Option.filter p) }

theorem readers_retain (g : Registry) (p : Reader → Bool) :
    (g.retain p).readers = g.readers.filter p := by
  show (g.candidates.map (Option.filter p)).filterMap id = (g.candidates.filterMap id).filter p
  rw [List.filterMap_map, List.filter_filterMap]
  rfl

theorem retain_retain (g : Registry) (p q : Reader → Bool) :
    (g.retain p).retain q = g.retain fun r => p r && q r := by
  simp only [retain, List.map_map]
  congr 2
  funext slot
  cases slot with
  | none => rfl
  | some r => cases hp : p r <;> simp [Option.filter, hp]

/-- A test that all candidates pass takes none away. -/
theorem retain_of_forall {g : Registry} {p : Reader → Bool} (h : ∀ r ∈ g.readers, p r = true) :
    g.retain p = g := by
  have hmap : g.candidates.map (Option.filter p) = g.candidates := by
    refine (List.map_congr_left fun slot hslot => ?_).trans (List.map_id _)
    cases slot with
    | none => rfl
    | some r =>
      have hr : r ∈ g.readers := List.mem_filterMap.mpr ⟨some r, hslot, rfl⟩
      exact if_pos (h r hr)
  rw [retain, hmap]

/-- Where one candidate at most fails a test, the others are left when it is taken. -/
theorem take_eq_retain {g : Registry} {p : Reader → Bool} {slot : Nat} {r : Reader}
    (hslot : g.candidates[slot]? = some (some r)) (hr : p r = false)
    (hone : g.readers.countP (fun c => !p c) ≤ 1) : g.take slot = g.retain p := by
  obtain ⟨hlt, hget⟩ := List.getElem?_eq_some_iff.mp hslot
  obtain ⟨before, after, hreaders, htaken⟩ := readers_take hslot
  rw [hreaders, List.countP_append, List.countP_cons_of_pos (by simp [hr])] at hone
  have hothers : ∀ c ∈ (g.take slot).readers, p c = true := by
    intro c hc
    have hzero : (before ++ after).countP (fun c => !p c) = 0 := by
      rw [List.countP_append]
      omega
    rw [htaken] at hc
    simpa using List.countP_eq_zero.mp hzero c hc
  -- the slot that is emptied is empty whether or not the test is made
  have hsame : (g.take slot).retain p = g.retain p := by
    simp only [retain, take, List.map_set]
    congr 1
    apply List.ext_getElem?
    intro i
    rw [List.getElem?_set]
    split
    · next h =>
      subst h
      simp [hlt, hget, hr, Option.filter]
    · rfl
  rw [← hsame, retain_of_forall hothers]

/-- The best candidate for a file is the same if all candidates that match it stay. -/
theorem best?_retain {g : Registry} {p : Reader → Bool} {fingerprint : Fingerprint}
    (h : ∀ r ∈ g.readers, r.fingerprint.matchesWith fingerprint = true → p r = true)
    (path : String) : (g.retain p).best? path fingerprint = g.best? path fingerprint := by
  have hmatching : matching fingerprint (g.retain p).candidates =
      matching fingerprint g.candidates := by
    simp only [matching, retain, List.zipIdx_map, List.filterMap_map]
    apply List.filterMap_congr
    rintro ⟨slot, i⟩ hslot
    cases slot with
    | none => rfl
    | some r =>
      have hr : r ∈ g.readers :=
        List.mem_filterMap.mpr ⟨some r, List.fst_mem_of_mem_zipIdx hslot, rfl⟩
      cases hm : r.fingerprint.matchesWith fingerprint with
      | true => simp [Option.filter, h r hr hm, hm]
      | false => cases hp : p r <;> simp [Option.filter, hp, hm]
  rw [best?, hmatching, best?]

/-! ## One file -/

variable {settings : ReadSettings} {fs : FileSystem} {firstPoll : Bool}

/-- What a file is given depends on the candidates that know it. -/
theorem resolve_retain {g : Registry} {p : Reader → Bool} {opened : FileSystem.Opened}
    (h : ∀ r ∈ g.readers, r.knows settings.fingerprintSize opened = true → p r = true)
    (path : String) :
    ((g.retain p).resolve settings fs path opened firstPoll).1 =
      (g.resolve settings fs path opened firstPoll).1 := by
  cases hf : opened.fingerprint settings.fingerprintSize with
  | error cause => rw [resolve_of_error hf, resolve_of_error hf]
  | ok fingerprint =>
    have hbest : (g.retain p).best? path fingerprint = g.best? path fingerprint := by
      apply best?_retain
      intro r hr hm
      apply h r hr
      rw [Reader.knows, hf]
      exact hm
    rw [resolve_of_fingerprint hf, resolve_of_fingerprint hf, hbest]
    split <;> rfl

/-- A file that one candidate at most knows takes away all the candidates that know it. -/
theorem resolve_leaves {g : Registry} {opened : FileSystem.Opened}
    (hone : g.readers.countP (fun r => r.knows settings.fingerprintSize opened) ≤ 1)
    (path : String) :
    (g.resolve settings fs path opened firstPoll).2 =
      g.retain fun r => !r.knows settings.fingerprintSize opened := by
  have hunknown : (∀ r ∈ g.readers, r.knows settings.fingerprintSize opened = false) →
      (g.retain fun r => !r.knows settings.fingerprintSize opened) = g := by
    intro h
    apply retain_of_forall
    intro r hr
    rw [h r hr]
    rfl
  cases hf : opened.fingerprint settings.fingerprintSize with
  | error cause =>
    rw [resolve_of_error hf, hunknown]
    intro r _
    rw [Reader.knows, hf]
  | ok fingerprint =>
    have hknows (r : Reader) :
        r.knows settings.fingerprintSize opened = r.fingerprint.matchesWith fingerprint := by
      rw [Reader.knows, hf]
    rw [resolve_of_fingerprint hf]
    split
    · next he =>
      rw [hunknown]
      intro r _
      rw [hknows, Fingerprint.matchesWith_comm, Fingerprint.matchesWith_of_isEmpty he]
    · rcases g.best?_spec path fingerprint with ⟨hb, hnone⟩ | ⟨slot, r, hb, hbest⟩
      · rw [without, hb, hunknown]
        intro r hr
        rw [hknows, hnone r hr]
      · rw [without, hb]
        apply take_eq_retain hbest.slot
        · rw [hknows, hbest.hit]
          rfl
        · simpa using hone

/-! ## Many files -/

/-- Resolves what was opened at paths, one after another: what each path is given, and the registry that
is left. -/
def resolveEach (g : Registry) (settings : ReadSettings) (fs : FileSystem) (firstPoll : Bool) :
    List (String × FileSystem.Opened) → List (String × Except IoError (Option Reader)) × Registry
  | [] => ([], g)
  | (path, opened) :: files =>
    let (answer, g) := g.resolve settings fs path opened firstPoll
    let (answers, g) := g.resolveEach settings fs firstPoll files
    ((path, answer) :: answers, g)

/-- No file is known by two candidates, and no candidate knows two files. -/
structure Unambiguous (g : Registry) (limit : Nat) (files : List (String × FileSystem.Opened)) :
    Prop where
  candidate : ∀ file ∈ files, g.readers.countP (fun r => r.knows limit file.2) ≤ 1
  file : ∀ r ∈ g.readers, files.countP (fun file => r.knows limit file.2) ≤ 1

/-- The first file takes no candidate away that knows another file. -/
theorem Unambiguous.apart {g : Registry} {limit : Nat} {file other : String × FileSystem.Opened}
    {files : List (String × FileSystem.Opened)} (h : g.Unambiguous limit (file :: files))
    (hother : other ∈ files) {r : Reader} (hr : r ∈ g.readers)
    (hknows : r.knows limit other.2 = true) : (!r.knows limit file.2) = true := by
  have hcount := h.file r hr
  have hpos : 0 < files.countP fun file => r.knows limit file.2 :=
    List.countP_pos_iff.mpr ⟨other, hother, hknows⟩
  rw [List.countP_cons] at hcount
  cases hk : r.knows limit file.2 with
  | false => rfl
  | true =>
    rw [if_pos hk] at hcount
    omega

theorem Unambiguous.retain {g : Registry} {limit : Nat} {file : String × FileSystem.Opened}
    {files : List (String × FileSystem.Opened)} (h : g.Unambiguous limit (file :: files))
    (p : Reader → Bool) : (g.retain p).Unambiguous limit files := by
  constructor
  · intro other hother
    rw [readers_retain]
    exact Nat.le_trans List.filter_sublist.countP_le
      (h.candidate other (List.mem_cons_of_mem _ hother))
  · intro r hr
    rw [readers_retain] at hr
    exact Nat.le_trans (List.sublist_cons_self _ _).countP_le (h.file r (List.mem_of_mem_filter hr))

/-- Each file is given what it would be given alone. -/
theorem resolveEach_eq {g : Registry} {files : List (String × FileSystem.Opened)}
    (h : g.Unambiguous settings.fingerprintSize files) :
    g.resolveEach settings fs firstPoll files =
      (files.map fun file => (file.1, (g.resolve settings fs file.1 file.2 firstPoll).1),
        g.retain fun r => files.all fun file => !r.knows settings.fingerprintSize file.2) := by
  induction files generalizing g with
  | nil => exact congrArg (Prod.mk []) (retain_of_forall fun r _ => rfl).symm
  | cons file files ih =>
    simp only [resolveEach]
    rw [resolve_leaves (h.candidate file List.mem_cons_self), ih (h.retain _), retain_retain]
    -- a later file is given the same as before the first one took its candidate
    have hlater : ∀ other ∈ files,
        ((g.retain fun r => !r.knows settings.fingerprintSize file.2).resolve settings fs other.1
          other.2 firstPoll).1 = (g.resolve settings fs other.1 other.2 firstPoll).1 := by
      intro other hother
      exact resolve_retain (fun r hr hknows => h.apart hother hr hknows) other.1
    rw [List.map_cons, List.map_congr_left fun other hother =>
      congrArg (Prod.mk other.1) (hlater other hother)]
    rfl

/-- Where no file is known by two candidates and no candidate knows two files, the order of the files
makes no difference to what each path is given, to the registry that is left, and to the readers that are
given up when the poll ends, whatever readers are handed back before. -/
theorem resolveEach_perm {g : Registry} {files files' : List (String × FileSystem.Opened)}
    (h : g.Unambiguous settings.fingerprintSize files) (hperm : files'.Perm files) :
    (g.resolveEach settings fs firstPoll files').1.Perm
        (g.resolveEach settings fs firstPoll files).1 ∧
      (g.resolveEach settings fs firstPoll files').2 =
        (g.resolveEach settings fs firstPoll files).2 ∧
      ∀ tracked tracked' : List Reader,
        (tracked'.foldl track (g.resolveEach settings fs firstPoll files').2).endPoll.1 =
          (tracked.foldl track (g.resolveEach settings fs firstPoll files).2).endPoll.1 := by
  have h' : g.Unambiguous settings.fingerprintSize files' := by
    constructor
    · intro file hfile
      exact h.candidate file (hperm.mem_iff.mp hfile)
    · intro r hr
      rw [hperm.countP_eq]
      exact h.file r hr
  have hleft : (g.resolveEach settings fs firstPoll files').2 =
      (g.resolveEach settings fs firstPoll files).2 := by
    rw [resolveEach_eq h, resolveEach_eq h']
    show g.retain _ = g.retain _
    congr 1
    funext r
    exact hperm.all_eq
  refine ⟨?_, hleft, fun tracked tracked' => ?_⟩
  · rw [resolveEach_eq h, resolveEach_eq h']
    exact hperm.map _
  · rw [hleft, foldl_track, foldl_track]
    rfl

/-- A reader of the log file that begins with some bytes, and was read to their end. -/
private def known (path : String) (bytes : Bytes) : Option Reader :=
  some { path, fingerprint := ⟨bytes⟩, offset := bytes.length, lastSeenSize := bytes.length,
         generation := 2, header := .done .empty, fileAttributes := .empty }

/-- Three log files that are known, and a slot that is empty. -/
private def threeLogs : Registry where
  candidates := [known "a.log" [1], none, known "b.log" [2, 2], known "c.log" [3]]
  startAtBeginning := false
  generation := 3

/-- What is found next: `a.log` was renamed, a file is new, one is empty, and one cannot be read. -/
private def laterFiles : List (String × FileSystem.Opened) :=
  [("a.log.1", .file [1, 2, 2]), ("a.log", .file [5]), ("b.log", .file [2, 2, 3]), ("d.log", .file []),
    ("c.log", .directory)]

theorem resolveEach_perm_threeLogs :
    threeLogs.Unambiguous Settings.logs.fingerprintSize laterFiles ∧
      laterFiles.reverse.Perm laterFiles ∧
      (threeLogs.resolveEach Settings.logs.toReadSettings (.twoLogs [] []) false
          laterFiles.reverse).1.Perm
        (threeLogs.resolveEach Settings.logs.toReadSettings (.twoLogs [] []) false laterFiles).1 ∧
      (threeLogs.resolveEach Settings.logs.toReadSettings (.twoLogs [] []) false
          laterFiles).2.endPoll.1.map Reader.path = ["c.log"] := by
  have h : threeLogs.Unambiguous Settings.logs.fingerprintSize laterFiles := by
    constructor <;> decide +kernel
  exact ⟨h, List.reverse_perm _, (resolveEach_perm h (List.reverse_perm _)).1, by decide +kernel⟩

/-! ## The files of a poll -/

/-- To resolve files one after another is to make the calls for them. -/
theorem callAll_resolve (g : Registry) (files : List (String × FileSystem.Opened)) :
    g.callAll (files.map fun file => .resolve settings fs file.1 file.2 firstPoll) =
      ((g.resolveEach settings fs firstPoll files).1.filterMap fun answer => answer.2.toOption.join,
        (g.resolveEach settings fs firstPoll files).2) := by
  induction files generalizing g with
  | nil => rfl
  | cons file files ih =>
    rw [List.map_cons, callAll_cons, ih]
    simp only [call, resolveEach, List.filterMap_cons]
    cases (g.resolve settings fs file.1 file.2 firstPoll).1.toOption.join <;> rfl

end Registry

/-- A poll in which every file can be read resolves the files one after another. -/
theorem Follower.resolveAll_eq_resolveEach (f : Follower) (fs : FileSystem)
    {files : List (String × Bytes)}
    (h : ∀ file ∈ files, fs.openPath file.1 = .ok (.file file.2)) :
    let resolved := f.registry.resolveEach f.settings.toReadSettings fs f.firstPoll
      (files.map fun file => (file.1, .file file.2))
    f.resolveAll fs (files.map Prod.fst) =
      (resolved.1.filterMap fun answer => answer.2.toOption.join,
        { f with registry := resolved.2 }) := by
  have hcalls : (files.map Prod.fst).flatMap (f.callsFor fs) =
      (files.map fun file => (file.1, FileSystem.Opened.file file.2)).map fun file =>
        .resolve f.settings.toReadSettings fs file.1 file.2 f.firstPoll := by
    rw [List.flatMap_map, List.map_map, List.map_eq_flatMap]
    apply List.flatMap_congr
    intro file hfile
    rw [callsFor, h file hfile]
    rfl
  rw [resolveAll_calls, hcalls, Registry.callAll_resolve]

end LogFollow
