import LogFollow.Proofs.Follower.Following
import LogFollow.Proofs.Follower.Paths

/-!
# No reader is lost

During a poll the registry is asked for the readers of files, and told to carry readers over. Every such
call moves candidates, and none of them vanishes or is used twice: each goes on in one reader that the
registry has given out, or is carried over as it is, or is left, and given up when the poll ends.
-/
namespace LogFollow

/-- A reader that the registry has given out goes on where a candidate stopped that knows the file. If
there is no such candidate it is new. -/
def Reader.Succeeds : Option Reader → Reader → Prop
  | some previous, r => previous.fingerprint.matchesWith r.fingerprint = true ∧
      ∃ settings fs, r =
        { inherit settings fs r.path r.fingerprint previous with generation := r.generation }
  | none, r => ∃ settings fs offset, r =
      { Reader.new settings fs r.path r.fingerprint offset with generation := r.generation }

namespace Registry

/-! ## Calls -/

/-- A call to the registry during a poll. -/
inductive Call
  /-- Asks for the reader of what was opened at a path. -/
  | resolve (settings : ReadSettings) (fs : FileSystem) (path : String) (opened : FileSystem.Opened)
      (firstPoll : Bool)
  /-- Carries the reader of a path over. -/
  | keep (path : String)

namespace Call

/-- The path that a call is about. -/
def path : Call → String
  | resolve _ _ path _ _ => path
  | keep path => path

/-- Whether a call asks for a reader and gets an error. -/
def fails : Call → Bool
  | resolve settings _ _ opened _ => !(opened.fingerprint settings.fingerprintSize).isOk
  | keep _ => false

/-- Whether a call carries a reader over. -/
def keeps : Call → Bool
  | resolve .. => false
  | keep _ => true

/-- Each path is asked for once at most, and carried over once at most; not both, unless asking failed. -/
def InTurn (calls : List Call) : Prop :=
  calls.Pairwise fun c c' => FilePath.same c.path c'.path = true → c.fails = true ∧ c'.keeps = true

instance (calls : List Call) : Decidable (InTurn calls) :=
  inferInstanceAs (Decidable (calls.Pairwise _))

end Call

/-- Answers a call: the reader that it gives out, if it does, and the registry that it leaves. -/
def call (g : Registry) : Call → Option Reader × Registry
  | .resolve settings fs path opened firstPoll =>
    let (answer, g) := g.resolve settings fs path opened firstPoll
    (answer.toOption.join, g)
  | .keep path => (none, (g.keep path).2)

/-- Answers calls, one after another: the readers that they give out, and the registry that they leave. -/
def callAll (g : Registry) : List Call → List Reader × Registry
  | [] => ([], g)
  | c :: calls =>
    let (r, g) := g.call c
    let (rs, g) := g.callAll calls
    (r.toList ++ rs, g)

theorem callAll_cons (g : Registry) (c : Call) (calls : List Call) :
    g.callAll (c :: calls) = ((g.call c).1.toList ++ ((g.call c).2.callAll calls).1,
      ((g.call c).2.callAll calls).2) := rfl

theorem callAll_append (g : Registry) (calls calls' : List Call) :
    g.callAll (calls ++ calls') =
      ((g.callAll calls).1 ++ ((g.callAll calls).2.callAll calls').1,
        ((g.callAll calls).2.callAll calls').2) := by
  induction calls generalizing g with
  | nil => rfl
  | cons c calls ih =>
    rw [List.cons_append, callAll_cons, callAll_cons, ih, List.append_assoc]

/-- The candidate that a call carries over. -/
def carried (g : Registry) : Call → Option Reader
  | .resolve .. => none
  | .keep path => (g.bound? path).map Prod.snd

/-- The candidates that calls carry over, in the order of the calls. -/
def carriedBy (g : Registry) : List Call → List Reader
  | [] => []
  | c :: calls => (g.carried c).toList ++ (g.call c).2.carriedBy calls

/-- A poll as the registry sees it: calls come in, readers are handed back, and the poll ends. -/
def cycle (g : Registry) (calls : List Call) (tracked : List Reader) : List Reader × Registry :=
  (tracked.foldl track (g.beginPoll.callAll calls).2).endPoll

/-! ## Where the candidates go -/

/-- A file without a reader takes no candidate. -/
theorem resolve_frame (g : Registry) (settings : ReadSettings) (fs : FileSystem) (path : String)
    (opened : FileSystem.Opened) (firstPoll : Bool)
    (h : ∀ r, (g.resolve settings fs path opened firstPoll).1 ≠ .ok (some r)) :
    (g.resolve settings fs path opened firstPoll).2 = g := by
  unfold resolve at h ⊢
  cases hp : opened.fingerprint settings.fingerprintSize with
  | error cause => rfl
  | ok fingerprint =>
    rw [hp] at h
    simp only at h ⊢
    split
    · rfl
    · next hne => exact absurd (by rw [if_neg hne]) (h _)

/-- The candidates of a registry, and where calls have moved them: `previous` go on in the readers
`found`, each of these with its candidate if it has one, and `carried` are carried over. -/
structure Moves (g : Registry) (previous : List (Option Reader)) (found carried : List Reader)
    (g' : Registry) : Prop where
  succeed : List.Forall₂ Reader.Succeeds previous found
  conserved : g.readers.Perm (previous.filterMap id ++ carried ++ g'.readers)
  left : g'.readers.Sublist g.readers
  current : g'.current = g.current ++ carried

theorem Moves.nothing (g : Registry) : g.Moves [] [] [] g :=
  ⟨.nil, .refl _, .refl _, (List.append_nil _).symm⟩

theorem Moves.append {g g' g'' : Registry} {previous previous' : List (Option Reader)}
    {found found' carried carried' : List Reader} (h : g.Moves previous found carried g')
    (h' : g'.Moves previous' found' carried' g'') :
    g.Moves (previous ++ previous') (found ++ found') (carried ++ carried') g'' := by
  refine ⟨List.rel_append h.succeed h'.succeed, ?_, h'.left.trans h.left, ?_⟩
  · refine (h.conserved.trans (h'.conserved.append_left _)).trans ?_
    simp only [List.filterMap_append, List.append_assoc]
    exact (List.perm_append_comm_assoc carried _ _).append_left _
  · rw [h'.current, h.current, List.append_assoc]

/-- Taking a candidate out of its slot leaves the others. -/
theorem readers_perm_take {g : Registry} {i : Nat} {r : Reader}
    (h : g.candidates[i]? = some (some r)) : g.readers.Perm (r :: (g.take i).readers) := by
  obtain ⟨before, after, hg, ht⟩ := readers_take h
  rw [hg, ht]
  exact List.perm_middle

/-- A reader that is given out has its candidate, or is new. -/
theorem moves_assign (g : Registry) (settings : ReadSettings) (fs : FileSystem) (path : String)
    (fingerprint : Fingerprint) (size : Nat) (firstPoll : Bool) :
    g.Moves [(g.best? path fingerprint).map Prod.snd]
      [(g.assign settings fs path fingerprint size firstPoll).1] []
      (g.assign settings fs path fingerprint size firstPoll).2 := by
  rw [assign_eq]
  refine ⟨.cons ?_ .nil, ?_, g.readers_without_sublist path fingerprint, ?_⟩
  · rcases g.best?_spec path fingerprint with ⟨hb, -⟩ | ⟨i, previous, hb, hbest⟩ <;> rw [hb]
    · exact ⟨settings, fs, g.firstOffset firstPoll size, rfl⟩
    · exact ⟨hbest.hit, settings, fs, rfl⟩
  · rcases g.best?_spec path fingerprint with ⟨hb, -⟩ | ⟨i, previous, hb, hbest⟩ <;>
      simp only [without, hb]
    · exact .refl _
    · exact readers_perm_take hbest.slot
  · rw [(g.without_frame path fingerprint).1, List.append_nil]

/-- What a call does: nothing, or it gives out a reader, or it carries one over. One that fails does
nothing. -/
inductive Answers (g : Registry) (c : Call) : Option Reader × Registry → Option Reader → Prop
  | nothing : Answers g c (none, g) none
  | gives (settings : ReadSettings) (fs : FileSystem) (fingerprint : Fingerprint) (size : Nat)
      (firstPoll : Bool) : c.fails = false →
      Answers g c (some (g.assign settings fs c.path fingerprint size firstPoll).1,
        (g.assign settings fs c.path fingerprint size firstPoll).2) none
  | carries (i : Nat) (r : Reader) : c.fails = false → g.candidates[i]? = some (some r) →
      FilePath.same r.path c.path = true →
      Answers g c (none, { g.take i with current := g.current ++ [r] }) (some r)

theorem answers (g : Registry) (c : Call) : g.Answers c (g.call c) (g.carried c) := by
  cases c with
  | resolve settings fs path opened firstPoll =>
    rw [call, carried, resolve]
    cases hp : opened.fingerprint settings.fingerprintSize with
    | error cause => exact .nothing
    | ok fingerprint =>
      simp only
      cases fingerprint.isEmpty with
      | true => exact .nothing
      | false =>
        refine .gives settings fs fingerprint opened.size firstPoll ?_
        rw [Call.fails, hp]
        rfl
  | keep path =>
    rw [call, carried, keep]
    cases hb : g.bound? path with
    | none => exact .nothing
    | some found =>
      obtain ⟨hslot, hsame⟩ := bound?_spec hb
      exact .carries found.1 found.2 rfl hslot hsame

/-- What one call moves. -/
theorem moves_call (g : Registry) (c : Call) :
    ∃ previous, g.Moves previous (g.call c).1.toList (g.carried c).toList (g.call c).2 := by
  have h := g.answers c
  generalize g.call c = answer, g.carried c = carried at h
  cases h with
  | nothing => exact ⟨[], .nothing g⟩
  | gives settings fs fingerprint size firstPoll _ =>
    exact ⟨_, g.moves_assign settings fs c.path fingerprint size firstPoll⟩
  | carries i r _ hslot _ =>
    exact ⟨[], .nil, readers_perm_take hslot, readers_take_sublist hslot, rfl⟩

/-- What a run of calls moves. -/
theorem moves_callAll (g : Registry) (calls : List Call) :
    ∃ previous, g.Moves previous (g.callAll calls).1 (g.carriedBy calls) (g.callAll calls).2 := by
  induction calls generalizing g with
  | nil => exact ⟨[], .nothing g⟩
  | cons c calls ih =>
    obtain ⟨previous, hc⟩ := g.moves_call c
    obtain ⟨more, hcalls⟩ := ih (g.call c).2
    exact ⟨previous ++ more, hc.append hcalls⟩

/-! ## Paths -/

/-- The paths of the readers that calls carry over or give out are those of calls that do not fail. -/
theorem paths_of_calls (g : Registry) (calls : List Call) :
    ∃ answered : List Call, answered.Sublist calls ∧ (∀ c ∈ answered, c.fails = false) ∧
      ((g.carriedBy calls ++ (g.callAll calls).1).map Reader.parts).Perm
        (answered.map fun c => FilePath.parts c.path) := by
  induction calls generalizing g with
  | nil => exact ⟨[], .slnil, fun c hc => absurd hc List.not_mem_nil, .nil⟩
  | cons c calls ih =>
    obtain ⟨answered, hsub, hfails, hperm⟩ := ih (g.call c).2
    rw [carriedBy, callAll]
    have h := g.answers c
    generalize g.call c = answer, g.carried c = carried at h hperm
    cases h with
    | nothing => exact ⟨answered, hsub.cons c, hfails, hperm⟩
    | gives settings fs fingerprint size firstPoll hc =>
      refine ⟨c :: answered, hsub.cons_cons c, List.forall_mem_cons.mpr ⟨hc, hfails⟩, ?_⟩
      have hparts : (g.assign settings fs c.path fingerprint size firstPoll).1.parts =
          FilePath.parts c.path := by
        rw [assign_eq]
        exact congrArg FilePath.parts (g.finds_successor settings fs c.path fingerprint size
          firstPoll _).path_eq
      refine (List.perm_middle.map Reader.parts).trans ?_
      rw [List.map_cons, List.map_cons, hparts]
      exact hperm.cons _
    | carries i r hc _ hsame =>
      refine ⟨c :: answered, hsub.cons_cons c, List.forall_mem_cons.mpr ⟨hc, hfails⟩, ?_⟩
      have hparts : r.parts = FilePath.parts c.path := FilePath.same_iff.mp hsame
      exact (hperm.cons r.parts).trans (.of_eq (by rw [hparts, List.map_cons]))

/-- Calls that come in turn carry over or give out one reader of each path. -/
theorem distinctPaths_calls (g : Registry) {calls : List Call} (h : Call.InTurn calls) :
    DistinctPaths (g.carriedBy calls ++ (g.callAll calls).1) := by
  obtain ⟨answered, hsub, hfails, hperm⟩ := g.paths_of_calls calls
  refine hperm.nodup_iff.mpr (List.pairwise_map.mpr ?_)
  refine (h.sublist hsub).imp_of_mem fun {c c'} hc _ hturn heq => ?_
  exact Bool.false_ne_true ((hfails c hc).symm.trans (hturn (FilePath.same_iff.mpr heq)).1)

/-! ## A whole poll -/

theorem foldl_track (g : Registry) (tracked : List Reader) :
    tracked.foldl track g = { g with current := g.current ++ tracked } := by
  induction tracked generalizing g with
  | nil => rw [List.foldl_nil, List.append_nil]
  | cons r tracked ih =>
    rw [List.foldl_cons, ih, track, List.append_assoc]
    rfl

/-- Where the readers of a registry are after a poll: `previous` are those that went on in readers that
were given out. -/
structure Conserves (g : Registry) (calls : List Call) (tracked : List Reader)
    (previous : List (Option Reader)) : Prop where
  inherited : List.Forall₂ Reader.Succeeds previous (g.beginPoll.callAll calls).1
  conserved : g.readers.Perm
    (previous.filterMap id ++ g.beginPoll.carriedBy calls ++ (g.cycle calls tracked).1)
  retired : (g.cycle calls tracked).1.Sublist g.readers
  readers : (g.cycle calls tracked).2.readers = g.current ++ (g.beginPoll.carriedBy calls ++ tracked)
  current : (g.cycle calls tracked).2.current = []

theorem conserves (g : Registry) (calls : List Call) (tracked : List Reader) :
    ∃ previous, g.Conserves calls tracked previous := by
  obtain ⟨previous, h⟩ := g.beginPoll.moves_callAll calls
  refine ⟨previous, h.succeed, ?_, ?_, ?_, rfl⟩
  all_goals rw [cycle, foldl_track]
  · exact h.conserved
  · exact h.left
  · change ((_ : List Reader).map some).filterMap id = _
    rw [List.filterMap_map, h.current, List.append_assoc]
    exact List.filterMap_some

/-- **In a poll the registry neither loses nor doubles a reader.** Each candidate goes on in one reader
that was given out, or is carried over as it is, or is given up, in the order of the candidates. A file
without a reader takes none. Those that were carried over or handed back are the readers of the next
poll, in the order of the calls, and no two of them are bound to one path. -/
theorem cycle_conserves (g : Registry) {calls : List Call} {tracked : List Reader}
    (hturn : Call.InTurn calls)
    (htracked : (tracked.map Reader.parts).Subperm
      ((g.beginPoll.callAll calls).1.map Reader.parts)) :
    (∃ previous, g.Conserves calls tracked previous) ∧
      (∀ (g' : Registry) settings fs path opened firstPoll,
        (∀ r, (g'.resolve settings fs path opened firstPoll).1 ≠ .ok (some r)) →
        (g'.resolve settings fs path opened firstPoll).2 = g') ∧
      DistinctPaths (g.beginPoll.carriedBy calls ++ tracked) := by
  refine ⟨g.conserves calls tracked, resolve_frame, ?_⟩
  obtain ⟨found, hperm, hsub⟩ := htracked
  have hdistinct := g.beginPoll.distinctPaths_calls hturn
  rw [DistinctPaths, List.map_append] at hdistinct ⊢
  exact (hperm.append_left _).nodup_iff.mp (hdistinct.sublist (hsub.append_left _))

/-- A reader of the log file that begins with some bytes. -/
private def candidate (path : String) (bytes : Bytes) (offset : Nat) : Option Reader :=
  some { path, fingerprint := ⟨bytes⟩, offset, lastSeenSize := offset, generation := 4,
         header := .done .empty, fileAttributes := .empty }

/-- Four log files that are known. -/
private def fourLogs : Registry where
  candidates := [candidate "a.log" [1] 1, candidate "b.log" [2, 2] 2, candidate "c.log" [3] 1,
    candidate "d.log" [4] 1]
  startAtBeginning := false
  generation := 4

/-- Calls for the files of the next poll: `a.log` was renamed, `d.log` cannot be read now, a file is
empty, and one is new. -/
private def fourCalls : List Call :=
  let resolve := fun path opened =>
    Call.resolve Settings.logs.toReadSettings (.twoLogs [] []) path opened false
  [resolve "d.log" .directory, resolve "a.log.1" (.file [1, 9]), resolve "empty.log" (.file []),
    .keep "d.log", resolve "new.log" (.file [5]), .keep "b.log"]

/-- The readers of the file that is new and of the one that was renamed, handed back in this order. -/
private def fourTracked : List Reader := (fourLogs.beginPoll.callAll fourCalls).1.reverse

theorem cycle_conserves_fourLogs :
    Call.InTurn fourCalls ∧
      (fourTracked.map Reader.parts).Subperm
        ((fourLogs.beginPoll.callAll fourCalls).1.map Reader.parts) ∧
      (∃ previous, fourLogs.Conserves fourCalls fourTracked previous) ∧
      (fourLogs.cycle fourCalls fourTracked).1.map Reader.path = ["c.log"] ∧
      (fourLogs.cycle fourCalls fourTracked).2.readers.map Reader.path =
        ["d.log", "b.log", "new.log", "a.log.1"] := by
  have hturn : Call.InTurn fourCalls := by decide +kernel
  have htracked : (fourTracked.map Reader.parts).Subperm
      ((fourLogs.beginPoll.callAll fourCalls).1.map Reader.parts) := by
    rw [fourTracked, List.map_reverse]
    exact (List.reverse_perm _).subperm
  exact ⟨hturn, htracked, (cycle_conserves fourLogs hturn htracked).1, by decide +kernel,
    by decide +kernel⟩

end Registry

/-! ## The calls of a poll -/

namespace Follower

/-- The calls that a poll makes for a path. -/
def callsFor (f : Follower) (fs : FileSystem) (path : String) : List Registry.Call :=
  match fs.openPath path with
  | .error _ => [.keep path]
  | .ok opened =>
    .resolve f.settings.toReadSettings fs path opened f.firstPoll ::
      if (opened.fingerprint f.settings.fingerprintSize).isOk then [] else [.keep path]

theorem resolvePath_calls (f : Follower) (fs : FileSystem) (path : String) :
    ((f.resolvePath fs path).1.toList, (f.resolvePath fs path).2) =
      f.registry.callAll (f.callsFor fs path) := by
  unfold resolvePath callsFor
  cases fs.openPath path with
  | error cause => rfl
  | ok opened =>
    simp only [Registry.callAll, Registry.call, Registry.resolve]
    cases opened.fingerprint f.settings.fingerprintSize with
    | error cause => rfl
    | ok fingerprint =>
      cases hempty : fingerprint.isEmpty <;> simp only [hempty] <;> rfl

/-- Finding the readers of files is to make the calls for their paths. -/
theorem resolveAll_calls (f : Follower) (fs : FileSystem) (paths : List String) :
    f.resolveAll fs paths =
      ((f.registry.callAll (paths.flatMap (f.callsFor fs))).1,
        { f with registry := (f.registry.callAll (paths.flatMap (f.callsFor fs))).2 }) := by
  induction paths generalizing f with
  | nil => rfl
  | cons path paths ih =>
    rw [List.flatMap_cons, Registry.callAll_append, ← f.resolvePath_calls fs path, resolveAll]
    simp only [ih { f with registry := (f.resolvePath fs path).2 }]
    rfl

/-- The calls for different paths come in turn. -/
theorem inTurn_calls (f : Follower) (fs : FileSystem) {paths : List String}
    (h : (paths.map FilePath.parts).Nodup) :
    Registry.Call.InTurn (paths.flatMap (f.callsFor fs)) := by
  have hpath {path : String} {c : Registry.Call} (hc : c ∈ f.callsFor fs path) : c.path = path := by
    unfold callsFor at hc
    split at hc
    · rw [List.mem_singleton.mp hc]
      rfl
    · rcases List.mem_cons.mp hc with rfl | hc
      · rfl
      · split at hc
        · cases hc
        · rw [List.mem_singleton.mp hc]
          rfl
  refine List.pairwise_flatMap.mpr ⟨fun path _ => ?_, ?_⟩
  · unfold callsFor
    split
    · exact List.pairwise_singleton _ _
    · next opened _ =>
      cases hok : (opened.fingerprint f.settings.fingerprintSize).isOk
      · refine List.pairwise_pair.mpr fun _ => ⟨?_, rfl⟩
        rw [Registry.Call.fails, hok]
        rfl
      · exact List.pairwise_singleton _ _
  · refine (List.pairwise_map.mp h).imp fun {path path'} hne c hc c' hc' hsame => ?_
    rw [hpath hc, hpath hc'] at hsame
    exact absurd (FilePath.same_iff.mp hsame) hne

end Follower
end LogFollow
