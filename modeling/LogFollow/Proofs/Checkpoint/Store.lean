import LogFollow.Checkpoint.File
import LogFollow.Proofs.Checkpoint.Codec
import LogFollow.Proofs.FileSystem
import Mathlib.Data.List.Induction

/-!
# The store keeps scopes apart

The key of a scope tells it from any other scope, whatever characters it has. So the records of a store
are a map from scopes to checkpoints: a load gives what was persisted last for the same scope, however
many other scopes were persisted since, and whether or not the store was closed in between.
-/
namespace LogFollow.CheckpointStore

open Codec (Word)

/-! ## Scopes and keys -/

theorem key_injective : Function.Injective key := by
  intro scope other h
  have h : "offsets/" ++ scope ++ "/known_files" = "offsets/" ++ other ++ "/known_files" := h
  exact (String.append_right_inj _).mp ((String.append_left_inj _).mp h)

/-- What is persisted for a scope leaves the other scopes as they were. -/
theorem load_persist_of_ne (s : CheckpointStore) {scope other : String} (h : other ≠ scope)
    (checkpoints : List Checkpoint) : (s.persist scope checkpoints).load other = s.load other := by
  have hkey : key other ≠ key scope := fun heq => h (key_injective heq)
  have hlookup : (s.persist scope checkpoints).records.lookup (key other) =
      s.records.lookup (key other) := by
    rw [persist, List.lookup_cons, beq_eq_false_iff_ne.mpr hkey]
    refine (lookup_filter s.records (· != key scope) (key other)).trans (if_pos ?_)
    exact bne_iff_ne.mpr hkey
  rw [load, load, hlookup]

/-! ## Calls -/

/-- What is asked of a store: to load or to persist the checkpoints of a scope, or to be closed and
opened again. -/
inductive Call
  | load (scope : String)
  | persist (scope : String) (checkpoints : List Checkpoint)
  | reopen

/-- The checkpoints that a call gives to a scope. -/
def Call.given? (scope : String) : Call → Option (List Checkpoint)
  | persist other checkpoints => if other = scope then some checkpoints else none
  | load _ | reopen => none

/-- All that is persisted fits. -/
def Call.Fits : Call → Prop
  | persist _ checkpoints => Word checkpoints.length ∧ ∀ c ∈ checkpoints, c.Storable
  | load _ | reopen => True

instance : DecidablePred Call.Fits
  | .persist _ checkpoints =>
    inferInstanceAs (Decidable (Word checkpoints.length ∧ ∀ c ∈ checkpoints, c.Storable))
  | .load _ | .reopen => inferInstanceAs (Decidable True)

/-- The store after a call. -/
def after (s : CheckpointStore) : Call → CheckpointStore
  | .load _ => s
  | .persist scope checkpoints => s.persist scope checkpoints
  | .reopen => s.reopen

/-- The answer to a call, if it has one. -/
def answer? (s : CheckpointStore) : Call → Option (Except DecodeFault (List Checkpoint))
  | .load scope => some (s.load scope)
  | .persist .. | .reopen => none

/-- The store after calls, one after another. -/
def afterAll (s : CheckpointStore) (calls : List Call) : CheckpointStore := calls.foldl after s

/-- The answers to calls, one after another. -/
def answers (s : CheckpointStore) :
    List Call → List (Option (Except DecodeFault (List Checkpoint)))
  | [] => []
  | call :: calls => s.answer? call :: (s.after call).answers calls

/-- The checkpoints that were given to a scope last; none if there were none. -/
def lastGiven (scope : String) (calls : List Call) : List Checkpoint :=
  (calls.reverse.findSome? (Call.given? scope)).getD []

theorem lastGiven_append (scope : String) (calls : List Call) (call : Call) :
    lastGiven scope (calls ++ [call]) = (call.given? scope).getD (lastGiven scope calls) := by
  rw [lastGiven, List.reverse_append, List.reverse_singleton, List.singleton_append,
    List.findSome?_cons]
  cases call.given? scope <;> rfl

/-! ## A store as a map -/

/-- A store that outlives its being closed loads what a map says. -/
structure Holds (s : CheckpointStore) (map : String → List Checkpoint) : Prop where
  durable : s.durable = true
  load_eq : ∀ scope, s.load scope = .ok (map scope)

/-- A call gives the map at most one new entry. -/
theorem Holds.after {s : CheckpointStore} {map : String → List Checkpoint} (h : s.Holds map)
    {call : Call} (hfits : call.Fits) :
    (s.after call).Holds fun scope => (call.given? scope).getD (map scope) := by
  cases call with
  | load scope => exact h
  | reopen =>
    have hsame : s.after .reopen = s := if_pos h.durable
    rw [hsame]
    exact h
  | persist given checkpoints =>
    refine ⟨h.durable, fun scope => ?_⟩
    rw [CheckpointStore.after, Call.given?]
    split
    · next heq => exact heq ▸ load_persist s given hfits.1 hfits.2
    · next hne => rw [load_persist_of_ne s (Ne.symm hne), h.load_eq, Option.getD_none]

/-- A store without records that outlives its being closed. -/
def fresh : CheckpointStore := { durable := true }

theorem holds_afterAll {calls : List Call} (hfits : ∀ call ∈ calls, call.Fits) :
    (fresh.afterAll calls).Holds (lastGiven · calls) := by
  induction calls using List.reverseRecOn with
  | nil => exact ⟨rfl, fun _ => rfl⟩
  | append_singleton calls call ih =>
    obtain ⟨hcalls, hcall⟩ := List.forall_mem_append.mp hfits
    have hafter := (ih hcalls).after (hcall call List.mem_cons_self)
    rw [afterAll, List.foldl_append]
    simp only [lastGiven_append]
    exact hafter

theorem getElem?_answers (s : CheckpointStore) (calls : List Call) (i : Nat) :
    (s.answers calls)[i]? = calls[i]?.map (s.afterAll (calls.take i)).answer? := by
  induction calls generalizing s i with
  | nil => rfl
  | cons call calls ih =>
    cases i with
    | zero => rfl
    | succ i => exact ih (s.after call) i

/-- **A store is a map from scopes to checkpoints.** However calls for any scopes follow each other on a
store that outlives its being closed, each load gives what was persisted last for its scope, and nothing
where nothing was; and what is persisted for one scope changes nothing for another. -/
theorem loads_last_given {calls : List Call} (hfits : ∀ call ∈ calls, call.Fits) :
    (∀ (i : Nat) (scope : String), calls[i]? = some (.load scope) →
      (fresh.answers calls)[i]? = some (some (.ok (lastGiven scope (calls.take i))))) ∧
      ∀ (s : CheckpointStore) (scope other : String) (checkpoints : List Checkpoint),
        other ≠ scope → (s.persist scope checkpoints).load other = s.load other := by
  refine ⟨fun i scope hi => ?_, fun s scope other checkpoints h => s.load_persist_of_ne h checkpoints⟩
  have hbefore : ∀ call ∈ calls.take i, call.Fits := fun call hc =>
    hfits call (List.mem_of_mem_take hc)
  have hholds := holds_afterAll hbefore
  rw [getElem?_answers, hi, Option.map_some, answer?, hholds.load_eq scope]

/-- Calls for scopes whose keys are hard to tell apart. -/
def nestedCalls : List Call :=
  [.persist "a" [⟨"x", ⟨[120]⟩, 1, 1, none⟩], .persist "a/known_files" [⟨"y", ⟨[121]⟩, 2, 2, none⟩],
    .reopen, .persist "a" [⟨"z", ⟨[122]⟩, 3, 4, some .empty⟩], .load "a/known_files", .load "a",
    .load ""]

theorem loads_last_given_of_nested :
    (fresh.answers nestedCalls)[4]? = some (some (.ok [⟨"y", ⟨[121]⟩, 2, 2, none⟩])) ∧
      (fresh.answers nestedCalls)[5]? = some (some (.ok [⟨"z", ⟨[122]⟩, 3, 4, some .empty⟩])) ∧
      (fresh.answers nestedCalls)[6]? = some (some (.ok [])) := by
  have hfits : ∀ call ∈ nestedCalls, call.Fits := by decide +kernel
  obtain ⟨hloads, -⟩ := loads_last_given hfits
  exact ⟨hloads 4 "a/known_files" rfl, hloads 5 "a" rfl, hloads 6 "" rfl⟩

/-! ## The file of a store -/

/-- The number of the records, and the lengths in them, fit. -/
structure Writable (s : CheckpointStore) : Prop where
  size : Word s.records.length
  records : ∀ record ∈ s.records,
    Word (Bytes.ofString record.1).length ∧ Word record.2.length

theorem recovers_record {record : String × Bytes}
    (h : Word (Bytes.ofString record.1).length ∧ Word record.2.length) :
    Codec.Recovers getRecord putRecord record := by
  intro rest
  rw [getRecord, putRecord, List.append_assoc, Codec.recovers_text h.1]
  simp only [bind, Except.bind, Codec.recovers_bytes .ended h.2 rest]
  rfl

/-- A store that was closed is opened from its file as it was. -/
theorem ofBytes?_toBytes {s : CheckpointStore} (hd : s.durable = true) (h : s.Writable) :
    ofBytes? s.toBytes = some s.reopen := by
  have hlist := Codec.recovers_list h.size (fun record hr => recovers_record (h.records record hr)) []
  rw [List.append_nil] at hlist
  have hne : s.toBytes.isEmpty = false := by
    rw [List.isEmpty_eq_false_iff, toBytes]
    exact List.append_ne_nil_of_left_ne_nil (by decide +kernel) _
  have hmark : fileMark.isPrefixOf s.toBytes = true :=
    List.isPrefixOf_iff_prefix.mpr (List.prefix_append _ _)
  rw [ofBytes?, hne, if_neg Bool.false_ne_true, if_pos hmark, toBytes, List.drop_left, hlist, reopen,
    if_pos hd]
  obtain ⟨durable, records⟩ := s
  exact congrArg (fun d => some (CheckpointStore.mk d records)) hd.symm

end LogFollow.CheckpointStore
