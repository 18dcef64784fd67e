import LogFollow.Proofs.Source.Completion

/-!
# Reading does not corrupt a fingerprint

A source that reads a file adds to its fingerprint only what stands in the file just behind it. So a
fingerprint that is a beginning of the file is one after every read, wherever the source has begun and however
its reads fall, and it has never become longer than its limit allows. The reads themselves give what they would
give without a fingerprint.
-/
namespace LogFollow

namespace Source

variable {content : Bytes} {s : Source}

/-- What reads of at most as many bytes as the sizes say give, one after another. -/
def results (s : Source) : List Nat → List ReadResult
  | [] => []
  | n :: sizes => (s.read n).1 :: (s.read n).2.results sizes

/-- What such reads give of the script alone. -/
def deliverEach (script : List Delivery) : List Nat → List ReadResult
  | [] => []
  | n :: sizes => (deliver n script).1 :: deliverEach (deliver n script).2 sizes

theorem read_deliver (s : Source) (n : Nat) :
    (s.read n).1 = (deliver n s.script).1 ∧ (s.read n).2.script = (deliver n s.script).2 := by
  unfold read
  rcases deliver n s.script with ⟨_ | _ | _, _⟩ <;> simp

/-- The fingerprint does not show in what the reads give. -/
theorem results_eq_deliverEach (s : Source) (sizes : List Nat) :
    s.results sizes = deliverEach s.script sizes := by
  induction sizes generalizing s with
  | nil => rfl
  | cons n rest ih =>
    obtain ⟨hresult, hscript⟩ := read_deliver s n
    simp only [results, deliverEach, ih, hresult, hscript]

/-! ## One extension -/

theorem prefix_extend (fingerprint : Fingerprint) (limit position : Nat) (bytes : Bytes) :
    fingerprint.bytes <+: (extend fingerprint limit position bytes).bytes := by
  unfold extend
  split
  · apply List.prefix_append
  · exact List.prefix_rfl

theorem size_extend_le (fingerprint : Fingerprint) (limit position : Nat) (bytes : Bytes) :
    (extend fingerprint limit position bytes).size ≤ max fingerprint.size limit := by
  unfold extend
  split
  · next hc =>
    simp only [Fingerprint.append, Fingerprint.size, List.length_append, List.length_take] at hc ⊢
    omega
  · exact Nat.le_max_left ..

/-- What a read adds begins just where the fingerprint ends, both in the fingerprint and in the file. -/
theorem extend_prefix {fingerprint : Fingerprint} {bytes : Bytes} {position : Nat}
    (hknown : fingerprint.bytes <+: content) (hbytes : bytes <+: content.drop position) (limit : Nat) :
    (extend fingerprint limit position bytes).bytes <+: content := by
  unfold extend
  split
  · next hc =>
    obtain ⟨behind, rfl⟩ := hknown
    have hbehind : bytes <+: behind := by
      rwa [hc.2, Fingerprint.size, List.drop_left] at hbytes
    show fingerprint.bytes ++ bytes.take (limit - fingerprint.size) <+: fingerprint.bytes ++ behind
    rw [List.prefix_append_right_inj]
    exact (List.take_prefix ..).trans hbehind
  · exact hknown

/-! ## Runs of reads -/

/-- What is still to come stands in the file at the source's place, and the fingerprint is a beginning of the
file. Of the place nothing is asked: it may be before, at or past the end of the fingerprint. -/
structure Faithful (content : Bytes) (s : Source) : Prop where
  stream : s.stream <+: content.drop s.position
  fingerprint : s.fingerprint.bytes <+: content

theorem Faithful.bytes_read (h : Faithful content s) (n : Nat) :
    (s.read n).1.bytes <+: content.drop s.position := by
  have hstream := h.stream
  rw [stream_read s n] at hstream
  exact (List.prefix_append ..).trans hstream

theorem Faithful.read (h : Faithful content s) (n : Nat) : Faithful content (s.read n).2 := by
  constructor
  · obtain ⟨behind, hbehind⟩ := h.stream
    rw [stream_read s n, List.append_assoc] at hbehind
    refine ⟨behind, ?_⟩
    rw [position_read, ← List.drop_drop, ← hbehind, List.drop_left]
  · rw [fingerprint_read]
    exact extend_prefix h.fingerprint (h.bytes_read n) s.limit

theorem Faithful.readEach (h : Faithful content s) (sizes : List Nat) :
    Faithful content (s.readEach sizes) := by
  induction sizes generalizing s with
  | nil => exact h
  | cons n rest ih => exact ih (h.read n)

theorem prefix_readEach (s : Source) (sizes : List Nat) :
    s.fingerprint.bytes <+: (s.readEach sizes).fingerprint.bytes := by
  induction sizes generalizing s with
  | nil => exact List.prefix_rfl
  | cons n rest ih =>
    have hfirst : s.fingerprint.bytes <+: (s.read n).2.fingerprint.bytes := by
      rw [fingerprint_read]
      apply prefix_extend
    exact hfirst.trans (ih _)

theorem size_readEach_le (s : Source) (sizes : List Nat) :
    (s.readEach sizes).fingerprint.size ≤ max s.fingerprint.size s.limit := by
  induction sizes generalizing s with
  | nil => exact Nat.le_max_left ..
  | cons n rest ih =>
    have hfirst : (s.read n).2.fingerprint.size ≤ max s.fingerprint.size s.limit := by
      rw [fingerprint_read]
      apply size_extend_le
    have hrest := ih (s.read n).2
    rw [limit_read] at hrest
    rw [readEach_cons]
    omega

/-- **Reading does not corrupt a fingerprint.** A source reads a file from any place on, with a fingerprint
that is any beginning of the file. After any number of reads of any sizes, with any pieces, interruptions and
failures, the fingerprint is a beginning of the file, goes on from the old one, and is no longer than the
larger of the old one and the limit. The reads have given what they give without a fingerprint. -/
theorem Faithful.keeps_fingerprint (h : Faithful content s) (sizes : List Nat) :
    (s.readEach sizes).fingerprint.bytes <+: content ∧
      s.fingerprint.bytes <+: (s.readEach sizes).fingerprint.bytes ∧
      (s.readEach sizes).fingerprint.size ≤ max s.fingerprint.size s.limit ∧
      s.results sizes = deliverEach s.script sizes :=
  ⟨(h.readEach sizes).fingerprint, prefix_readEach s sizes, size_readEach_le s sizes,
    results_eq_deliverEach s sizes⟩

/-- The file `0123ABCD`, read from its fourth byte on with a fingerprint of four bytes that may grow to seven:
one byte, an interruption, three bytes, a failure, and the last byte. -/
theorem keeps_fingerprint_interrupted :
    let content : Bytes := [0x30, 0x31, 0x32, 0x33, 0x41, 0x42, 0x43, 0x44]
    let script := [.data [0x33], .interrupted, .data [0x41, 0x42, 0x43], .failed (.other "read failed"),
      .data [0x44]]
    let first : Source := ⟨script, 3, .ofContent 4 content, 7⟩
    Faithful content first ∧ (first.readEach [8, 8, 8, 8, 8]).fingerprint.bytes <+: content ∧
      (first.readEach [8, 8, 8, 8, 8]).fingerprint.size = 7 := by
  intro content script first
  have hfaithful : Faithful content first := ⟨by decide, by decide⟩
  exact ⟨hfaithful, (hfaithful.keeps_fingerprint _).1, by decide⟩

end Source

end LogFollow
