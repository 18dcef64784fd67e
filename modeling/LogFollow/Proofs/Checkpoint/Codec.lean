import LogFollow.Checkpoint.Store
import LogFollow.Proofs.Text.Utf8
import Mathlib.Algebra.Group.Nat.Defs

/-!
# Checkpoints outlive their stored form

Each reader of stored bytes takes back what its writer has put in front of them, and leaves the rest.
This holds of numbers that fit into their eight bytes, and so of all that is made of such numbers. What
a store has persisted for a scope is therefore what it loads.
-/
namespace LogFollow

/-! ## Attributes -/

theorem insertPair_of_lt {key value : String} {entries : List (String × String)}
    (h : ∀ pair ∈ entries, pair.1 < key) :
    insertPair key value entries = entries ++ [(key, value)] := by
  induction entries with
  | nil => rfl
  | cons pair rest ih =>
    obtain ⟨hp, hr⟩ := List.forall_mem_cons.mp h
    rw [insertPair, if_neg (String.lt_asymm hp), if_neg, ih hr, List.cons_append]
    rintro rfl
    exact String.lt_irrefl _ hp

namespace Attributes

theorem foldl_insert {pairs : List (String × String)} (a : Attributes)
    (h : Increasing (a.entries ++ pairs)) :
    (pairs.foldl (fun a pair => a.insert pair.1 pair.2) a).entries = a.entries ++ pairs := by
  induction pairs generalizing a with
  | nil => exact (List.append_nil _).symm
  | cons pair rest ih =>
    have hlast : ∀ p ∈ a.entries, p.1 < pair.1 := fun p hp =>
      (List.pairwise_append.mp h).2.2 p hp pair List.mem_cons_self
    have hinsert : (a.insert pair.1 pair.2).entries = a.entries ++ [pair] := insertPair_of_lt hlast
    have hsplit : a.entries ++ pair :: rest = a.entries ++ [pair] ++ rest := by simp
    rw [List.foldl_cons, ih (a.insert pair.1 pair.2) (by rwa [hinsert, ← hsplit]), hinsert, hsplit]

/-- The map of the pairs of a map is the map. -/
theorem ofList_entries (a : Attributes) : ofList a.entries = a := by
  obtain ⟨entries, h⟩ := a
  have hentries : (ofList entries).entries = entries := foldl_insert empty h
  cases hl : ofList entries
  simp_all

end Attributes

/-! ## Values -/

namespace Codec

/-- The reader takes back what the writer has put in front of some bytes. -/
def Recovers {α : Type} (get : Reads α) (put : α → Bytes) (a : α) : Prop :=
  ∀ rest, get (put a ++ rest) = .ok (a, rest)

/-- A number fits into eight bytes. -/
def Word (n : Nat) : Prop := n < 256 ^ 8

instance : DecidablePred Word := fun n => inferInstanceAs (Decidable (n < 256 ^ 8))

theorem length_littleEndian (width n : Nat) : (littleEndian width n).length = width := by
  induction width generalizing n with
  | zero => rfl
  | succ width ih => rw [littleEndian, List.length_cons, ih]

theorem ofLittleEndian_littleEndian {width n : Nat} (h : n < 256 ^ width) :
    ofLittleEndian (littleEndian width n) = n := by
  induction width generalizing n with
  | zero =>
    rw [Nat.pow_zero] at h
    rw [littleEndian, ofLittleEndian]
    omega
  | succ width ih =>
    have hdiv : n / 256 < 256 ^ width := by
      rw [Nat.div_lt_iff_lt_mul (by decide), ← Nat.pow_succ]
      exact h
    have hmod := Nat.mod_lt n (by decide : 0 < 256)
    rw [littleEndian, ofLittleEndian, ih hdiv, Text.Utf8.toNat_ofNat hmod, Nat.add_comm,
      Nat.div_add_mod]

theorem reaches_append (b rest : Bytes) : (b ++ rest).reaches b.length = true := by
  induction b with
  | nil => cases rest <;> rfl
  | cons x b ih => exact ih

theorem takeBytes_append (fault : DecodeFault) (b rest : Bytes) :
    takeBytes fault b.length (b ++ rest) = .ok (b, rest) := by
  rw [takeBytes, if_pos (reaches_append b rest), List.take_left, List.drop_left]

variable {α : Type} {get : Reads α} {put : α → Bytes}

theorem recovers_number {n : Nat} (h : Word n) : Recovers getNumber putNumber n := by
  intro rest
  have hlen : (putNumber n).length = 8 := length_littleEndian 8 n
  have htake : takeBytes .ended 8 (putNumber n ++ rest) = .ok (putNumber n, rest) := by
    rw [← hlen]
    exact takeBytes_append .ended (putNumber n) rest
  rw [getNumber, htake]
  exact congrArg (fun m => Except.ok (m, rest)) (ofLittleEndian_littleEndian h)

theorem recovers_bytes (fault : DecodeFault) {b : Bytes} (h : Word b.length) :
    Recovers (getBytes fault) putBytes b := by
  intro rest
  rw [getBytes, putBytes, List.append_assoc, recovers_number h]
  exact takeBytes_append fault b rest

theorem recovers_text {s : String} (h : Word (Bytes.ofString s).length) :
    Recovers getText putText s := by
  intro rest
  rw [getText, putText, recovers_bytes .shortText h]
  simp only [bind, Except.bind, Text.Utf8.read_ofString]
  rfl

theorem getTimes_flatMap {β : Type} {get : Reads β} {value : α → β} {as : List α}
    (h : ∀ a ∈ as, ∀ rest, get (put a ++ rest) = .ok (value a, rest)) (rest : Bytes) :
    getTimes get as.length (as.flatMap put ++ rest) = .ok (as.map value, rest) := by
  induction as with
  | nil => rfl
  | cons a as ih =>
    obtain ⟨ha, has⟩ := List.forall_mem_cons.mp h
    rw [List.length_cons, List.flatMap_cons, List.append_assoc, getTimes, ha]
    simp only [bind, Except.bind, ih has]
    rfl

theorem recovers_list {as : List α} (hl : Word as.length) (h : ∀ a ∈ as, Recovers get put a) :
    Recovers (getList get) (putList put) as := by
  intro rest
  have htimes := getTimes_flatMap h rest
  rw [List.map_id'] at htimes
  rw [getList, putList, List.append_assoc, recovers_number hl]
  exact htimes

theorem recovers_option {o : Option α} (h : ∀ a ∈ o, Recovers get put a) :
    Recovers (getOption get) (putOption put) o := by
  intro rest
  cases o with
  | none => rfl
  | some a =>
    rw [putOption, List.cons_append, getOption, if_neg (by decide), if_pos rfl, h a rfl]
    rfl

end Codec

/-! ## Checkpoints -/

open Codec (Word)

/-- The keys and the values of a map, and their number, have lengths that fit. -/
structure Attributes.Storable (a : Attributes) : Prop where
  size : Word a.entries.length
  texts : ∀ pair ∈ a.entries,
    Word (Bytes.ofString pair.1).length ∧ Word (Bytes.ofString pair.2).length

/-- All numbers in a checkpoint fit. -/
structure Checkpoint.Storable (c : Checkpoint) : Prop where
  path : Word (Bytes.ofString c.path).length
  fingerprint : Word c.fingerprint.size
  offset : Word c.offset
  lastSeenSize : Word c.lastSeenSize
  header : ∀ attributes ∈ c.header, attributes.Storable

instance : DecidablePred Attributes.Storable := fun _ =>
  decidable_of_iff (_ ∧ _) ⟨fun h => ⟨h.1, h.2⟩, fun h => ⟨h.size, h.texts⟩⟩

instance : DecidablePred Checkpoint.Storable := fun _ =>
  decidable_of_iff (_ ∧ _ ∧ _ ∧ _ ∧ _) ⟨fun h => ⟨h.1, h.2.1, h.2.2.1, h.2.2.2.1, h.2.2.2.2⟩,
    fun h => ⟨h.path, h.fingerprint, h.offset, h.lastSeenSize, h.header⟩⟩

namespace Codec

theorem recovers_pair {pair : String × String}
    (h : Word (Bytes.ofString pair.1).length ∧ Word (Bytes.ofString pair.2).length) :
    Recovers getPair putPair pair := by
  intro rest
  rw [getPair, putPair, List.append_assoc, recovers_text h.1]
  simp only [bind, Except.bind, recovers_text h.2 rest]
  rfl

theorem recovers_attributes {a : Attributes} (h : a.Storable) :
    Recovers getAttributes putAttributes a := by
  intro rest
  have hlist := recovers_list h.size fun pair hp => recovers_pair (h.texts pair hp)
  rw [getAttributes, putAttributes, hlist rest]
  simp only [bind, Except.bind, Attributes.ofList_entries]
  rfl

theorem recovers_checkpoint {c : Checkpoint} (h : c.Storable) :
    Recovers getCheckpoint putCheckpoint c := by
  intro rest
  have hheader := recovers_option fun a ha => recovers_attributes (h.header a ha)
  rw [getCheckpoint, putCheckpoint]
  simp only [List.append_assoc, bind, Except.bind, recovers_text h.path _,
    recovers_bytes .ended h.fingerprint _, recovers_number h.offset _,
    recovers_number h.lastSeenSize _, hheader rest]
  rfl

end Codec

/-- **Checkpoints are decoded from their stored form.** -/
theorem Checkpoint.decode_encode {checkpoints : List Checkpoint} (hl : Word checkpoints.length)
    (h : ∀ c ∈ checkpoints, c.Storable) : decode (encode checkpoints) = .ok checkpoints := by
  have hlist := Codec.recovers_list hl (fun c hc => Codec.recovers_checkpoint (h c hc)) []
  rw [List.append_nil] at hlist
  rw [decode, encode, hlist]
  rfl

/-- What was persisted for a scope is loaded. -/
theorem CheckpointStore.load_persist (s : CheckpointStore) (scope : String)
    {checkpoints : List Checkpoint} (hl : Word checkpoints.length)
    (h : ∀ c ∈ checkpoints, c.Storable) :
    (s.persist scope checkpoints).load scope = .ok checkpoints := by
  rw [load, persist, List.lookup_cons, beq_self_eq_true]
  exact Checkpoint.decode_encode hl h

end LogFollow
