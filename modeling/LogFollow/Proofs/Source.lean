import LogFollow.Source
import Mathlib.Tactic.Common

/-!
# What the reads of a source meet

The script of a source has a stream of bytes and a list of failures. A read takes bytes from the front of the
stream, or meets a failure or an interruption, or the end, and each of these but the end makes the script
shorter. A source that reads a file and has its fingerprint has it after every read.
-/
namespace LogFollow

/-- The bytes that a read gives. -/
def ReadResult.bytes : ReadResult → Bytes
  | .data bytes => bytes
  | .interrupted | .failed _ => []

namespace Source

/-- The bytes that a script brings. -/
def streamOf : List Delivery → Bytes
  | [] => []
  | .data bytes :: rest => bytes ++ streamOf rest
  | .interrupted :: rest | .failed _ :: rest => streamOf rest

/-- The failures in a script. -/
def failuresOf : List Delivery → List IoError
  | [] => []
  | .failed cause :: rest => cause :: failuresOf rest
  | .data _ :: rest | .interrupted :: rest => failuresOf rest

/-- The bytes that are still to come. -/
def stream (s : Source) : Bytes := streamOf s.script

/-- The failures that are still to come. -/
def failures (s : Source) : List IoError := failuresOf s.script

/-- What a read gives is taken from the front of the stream. -/
theorem streamOf_deliver (n : Nat) (script : List Delivery) :
    streamOf script = (deliver n script).1.bytes ++ streamOf (deliver n script).2 := by
  fun_induction deliver n script with
  | case1 => rfl
  | case2 rest ih => exact ih
  | case3 piece rest hne left =>
    simp only [streamOf, ReadResult.bytes]
    split
    · next hl =>
      have hd : piece.drop n = [] := List.isEmpty_iff.mp hl
      rw [← List.append_nil (piece.take n), ← hd, List.take_append_drop]
    · rw [streamOf, ← List.append_assoc, List.take_append_drop]
  | case4 => rfl
  | case5 => rfl

/-- A read takes its bytes from the front of the stream. -/
theorem stream_read (s : Source) (n : Nat) :
    s.stream = (s.read n).1.bytes ++ (s.read n).2.stream := by
  have hd := streamOf_deliver n s.script
  rw [stream, hd]
  unfold read
  rcases deliver n s.script with ⟨_ | _ | _, _⟩ <;> rfl

theorem position_read (s : Source) (n : Nat) :
    (s.read n).2.position = s.position + (s.read n).1.bytes.length := by
  unfold read
  rcases deliver n s.script with ⟨_ | _ | _, _⟩ <;> rfl

/-- A source counts the bytes that it gives. -/
theorem position_add_stream_read (s : Source) (n : Nat) :
    (s.read n).2.position + (s.read n).2.stream.length = s.position + s.stream.length := by
  rw [position_read, stream_read s n, List.length_append, Nat.add_assoc]

@[simp] theorem limit_read (s : Source) (n : Nat) : (s.read n).2.limit = s.limit := by
  unfold read
  rcases deliver n s.script with ⟨_ | _ | _, _⟩ <;> rfl

theorem extend_nil (fingerprint : Fingerprint) (limit position : Nat) :
    extend fingerprint limit position [] = fingerprint := by
  simp [extend, Fingerprint.append]

/-- A read that is interrupted or fails adds nothing, as if it had read no bytes. -/
theorem fingerprint_read (s : Source) (n : Nat) :
    (s.read n).2.fingerprint = extend s.fingerprint s.limit s.position (s.read n).1.bytes := by
  unfold read
  rcases deliver n s.script with ⟨_ | _ | _, _⟩
  · rfl
  · exact (extend_nil ..).symm
  · exact (extend_nil ..).symm

/-- What a read of at most `n` bytes can meet: the end of the source, some bytes of its stream, an
interruption or a failure. All but the end make the rest of the script shorter. -/
inductive Meets (n : Nat) (s s' : Source) : ReadResult → Prop
  | ended : s.stream = [] → s.failures = [] → s'.stream = [] → s'.failures = [] →
      Meets n s s' (.data [])
  | some (bytes : Bytes) : bytes ≠ [] → bytes.length ≤ n → s.stream = bytes ++ s'.stream →
      s.failures = s'.failures → s'.work < s.work → Meets n s s' (.data bytes)
  | interrupted : s.stream = s'.stream → s.failures = s'.failures → s'.work < s.work →
      Meets n s s' .interrupted
  | failed (cause : IoError) : s.stream = s'.stream → s.failures = cause :: s'.failures →
      s'.work < s.work → Meets n s s' (.failed cause)

/-- A read takes the beginning of a piece, and leaves the rest of it for the next. -/
theorem deliver_data_meets {n : Nat} {bytes : Bytes} {rest : List Delivery} (hn : 0 < n)
    (hb : bytes ≠ []) (s s' : Source) (hs : s.script = .data bytes :: rest)
    (hs' : s'.script = (deliver n (.data bytes :: rest)).2) :
    Meets n s s' (deliver n (.data bytes :: rest)).1 := by
  have hl : 0 < bytes.length := List.length_pos_iff.mpr hb
  have hne : bytes.take n ≠ [] := by
    rw [ne_eq, List.take_eq_nil_iff]
    rintro (h | h)
    · omega
    · exact hb h
  rw [deliver.eq_3 n bytes rest hb] at hs' ⊢
  by_cases hd : (bytes.drop n).isEmpty
  · simp only [hd, if_true] at hs'
    rw [List.isEmpty_iff, List.drop_eq_nil_iff] at hd
    refine .some _ hne (List.length_take_le n bytes) ?_ ?_ ?_
    · simp [stream, streamOf, hs, hs', List.take_of_length_le hd]
    · simp [failures, failuresOf, hs, hs']
    · simp [work, workOf, hs, hs', hl]
  · simp only [hd, if_false, Bool.false_eq_true] at hs'
    refine .some _ hne (List.length_take_le n bytes) ?_ ?_ ?_
    · simp [stream, streamOf, hs, hs', ← List.append_assoc]
    · simp [failures, failuresOf, hs, hs']
    · simp only [work, hs, hs', List.foldr_cons, workOf, List.length_drop]
      omega

theorem deliver_meets {n : Nat} (hn : 0 < n) (script : List Delivery) (s s' : Source)
    (hs : s.script = script) (hs' : s'.script = (deliver n script).2) :
    Meets n s s' (deliver n script).1 := by
  induction script generalizing s with
  | nil =>
    refine .ended ?_ ?_ ?_ ?_ <;>
      simp [stream, failures, streamOf, failuresOf, hs, hs', deliver]
  | cons d rest ih =>
    cases d with
    | interrupted =>
      refine .interrupted ?_ ?_ ?_ <;>
        simp [stream, failures, streamOf, failuresOf, work, workOf, hs, hs', deliver]
    | failed cause =>
      refine .failed cause ?_ ?_ ?_ <;>
        simp [stream, failures, streamOf, failuresOf, work, workOf, hs, hs', deliver]
    | data bytes =>
      by_cases hb : bytes = []
      · -- an empty piece is passed over: the source meets what it would meet without the piece
        subst hb
        have h := ih { s with script := rest } rfl hs'
        have hst : ({ s with script := rest } : Source).stream = s.stream := by
          simp [stream, streamOf, hs]
        have hf : ({ s with script := rest } : Source).failures = s.failures := by
          simp [failures, failuresOf, hs]
        have hw : ({ s with script := rest } : Source).work = s.work := by
          simp [work, workOf, hs]
        rw [deliver]
        generalize (deliver n rest).1 = r at h ⊢
        cases h with
        | ended h₁ h₂ h₃ h₄ => exact .ended (hst ▸ h₁) (hf ▸ h₂) h₃ h₄
        | some bytes h₁ h₂ h₃ h₄ h₅ => exact .some bytes h₁ h₂ (hst ▸ h₃) (hf ▸ h₄) (hw ▸ h₅)
        | interrupted h₁ h₂ h₃ => exact .interrupted (hst ▸ h₁) (hf ▸ h₂) (hw ▸ h₃)
        | failed cause h₁ h₂ h₃ => exact .failed cause (hst ▸ h₁) (hf ▸ h₂) (hw ▸ h₃)
      · exact deliver_data_meets hn hb s s' hs hs'

/-- A read meets what its result says. -/
theorem meets_read {n : Nat} (hn : 0 < n) (s : Source) : Meets n s (s.read n).2 (s.read n).1 := by
  have h : (s.read n).1 = (deliver n s.script).1 ∧ (s.read n).2.script = (deliver n s.script).2 := by
    unfold read
    rcases deliver n s.script with ⟨_ | _ | _, _⟩ <;> exact ⟨rfl, rfl⟩
  rw [h.1]
  exact deliver_meets hn s.script s _ rfl h.2

/-! ## The source of a file -/

/-- The source reads a file with this content, whose fingerprint it has. -/
structure OfFile (content : Bytes) (limit : Nat) (s : Source) : Prop where
  stream : s.stream = content.drop s.position
  limit_eq : s.limit = limit
  fingerprint : s.fingerprint = .ofContent limit content

theorem stream_ofContent (content : Bytes) (place : Nat) (fingerprint : Fingerprint)
    (limit : Nat) : (ofContent content place fingerprint limit).stream = content.drop place := by
  simp [ofContent, stream, streamOf]

/-- A fingerprint of the file has all of the file's bytes when it is shorter than it may be, so a read
where it ends finds nothing to add. -/
theorem extend_ofContent {content bytes rest : Bytes} {limit position : Nat}
    (h : content.drop position = bytes ++ rest) :
    extend (.ofContent limit content) limit position bytes = .ofContent limit content := by
  by_cases hc : (Fingerprint.ofContent limit content).size < limit ∧
      position = (Fingerprint.ofContent limit content).size
  · obtain ⟨hl, hp⟩ := hc
    simp only [Fingerprint.ofContent, Fingerprint.size, List.length_take] at hl hp
    have hd : content.drop position = [] := List.drop_of_length_le (by omega)
    have hb : bytes = [] := (List.append_eq_nil_iff.mp (h.symm.trans hd)).1
    rw [hb, extend_nil]
  · exact if_neg hc

/-- What is left of the file after a read is what stands behind the place that the read has come to. -/
theorem stream_read_eq_drop {content : Bytes} {s : Source} (h : s.stream = content.drop s.position)
    (n : Nat) : (s.read n).2.stream = content.drop (s.read n).2.position := by
  rw [position_read, ← List.drop_drop, ← h, stream_read s n, List.drop_left]

theorem OfFile.read {content : Bytes} {limit : Nat} {s : Source} (h : OfFile content limit s)
    (n : Nat) : OfFile content limit (s.read n).2 where
  stream := stream_read_eq_drop h.stream n
  limit_eq := (limit_read s n).trans h.limit_eq
  fingerprint := by
    rw [fingerprint_read, h.fingerprint, h.limit_eq,
      extend_ofContent (h.stream.symm.trans (stream_read s n))]

end Source

end LogFollow
