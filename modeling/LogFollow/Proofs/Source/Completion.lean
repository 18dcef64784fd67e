import LogFollow.Proofs.Source

/-!
# When reading completes a fingerprint

A source that reads a file extends a fingerprint that is shorter than its limit by a read that begins just
where the fingerprint ends. For a source that begins before that place it matters how its reads fall. If one
of them ends there, the fingerprint is from then on that of what has been read, and complete at the end of the
file. If one goes past the place instead, no later one begins there, and the fingerprint keeps its size.
-/
namespace LogFollow

namespace Source

variable {content : Bytes} {s : Source}

/-- The source after reads of at most as many bytes as the sizes say. -/
def readEach (s : Source) (sizes : List Nat) : Source :=
  sizes.foldl (fun s n => (s.read n).2) s

@[simp] theorem readEach_nil (s : Source) : s.readEach [] = s := rfl

@[simp] theorem readEach_cons (s : Source) (n : Nat) (sizes : List Nat) :
    s.readEach (n :: sizes) = (s.read n).2.readEach sizes := rfl

@[simp] theorem limit_readEach (s : Source) (sizes : List Nat) :
    (s.readEach sizes).limit = s.limit := by
  induction sizes generalizing s with
  | nil => rfl
  | cons n rest ih => rw [readEach_cons, ih, limit_read]

theorem position_add_stream_readEach (s : Source) (sizes : List Nat) :
    (s.readEach sizes).position + (s.readEach sizes).stream.length = s.position + s.stream.length := by
  induction sizes generalizing s with
  | nil => rfl
  | cons n rest ih => rw [readEach_cons, ih, position_add_stream_read]

/-- Before, between or after these reads the source stands at this place. -/
def Stops (s : Source) (sizes : List Nat) (place : Nat) : Prop :=
  ∃ front, front <+: sizes ∧ (s.readEach front).position = place

theorem stops_cons_iff {n place : Nat} {sizes : List Nat} :
    s.Stops (n :: sizes) place ↔ s.position = place ∨ (s.read n).2.Stops sizes place := by
  constructor
  · rintro ⟨front, hfront, hplace⟩
    rcases List.prefix_cons_iff.mp hfront with rfl | ⟨rest, rfl, hrest⟩
    · exact .inl hplace
    · exact .inr ⟨rest, hrest, hplace⟩
  · rintro (hplace | ⟨front, hfront, hplace⟩)
    · exact ⟨[], List.nil_prefix, hplace⟩
    · exact ⟨n :: front, (List.prefix_cons_inj n).mpr hfront, hplace⟩

/-! ## Past the end of the fingerprint -/

theorem fingerprint_read_of_ne (h : s.position ≠ s.fingerprint.size) (n : Nat) :
    (s.read n).2.fingerprint = s.fingerprint := by
  rw [fingerprint_read]
  exact if_neg fun hc => h hc.2

theorem position_le_read (s : Source) (n : Nat) : s.position ≤ (s.read n).2.position := by
  rw [position_read]
  exact Nat.le_add_right ..

theorem position_le_readEach (s : Source) (sizes : List Nat) :
    s.position ≤ (s.readEach sizes).position := by
  induction sizes generalizing s with
  | nil => exact Nat.le_refl _
  | cons n rest ih => exact Nat.le_trans (position_le_read s n) (ih _)

/-- A source that is past the end of its fingerprint does not come back to it. -/
theorem fingerprint_readEach_of_lt (h : s.fingerprint.size < s.position) (sizes : List Nat) :
    (s.readEach sizes).fingerprint = s.fingerprint := by
  induction sizes generalizing s with
  | nil => rfl
  | cons n rest ih =>
    have hsame := fingerprint_read_of_ne (Nat.ne_of_gt h) n
    rw [readEach_cons, ih, hsame]
    rw [hsame]
    exact Nat.lt_of_lt_of_le h (position_le_read s n)

theorem not_stops_of_lt {place : Nat} (h : place < s.position) (sizes : List Nat) :
    ¬ s.Stops sizes place := by
  rintro ⟨front, -, hplace⟩
  have hle := position_le_readEach s front
  omega

/-! ## At the end of the fingerprint -/

/-- The source reads the file, and the fingerprint is that of what has been read. -/
structure Completing (content : Bytes) (s : Source) : Prop where
  stream : s.stream = content.drop s.position
  fingerprint : s.fingerprint = .ofContent s.limit (content.take s.position)

/-- A fingerprint of what has been read begins its next read where it ends, or is full, or the file has
nothing more. -/
theorem extend_ofContent_take {bytes rest : Bytes} {limit position : Nat}
    (h : content.drop position = bytes ++ rest) :
    extend (.ofContent limit (content.take position)) limit position bytes =
      .ofContent limit (content.take (position + bytes.length)) := by
  have hnext : content.take (position + bytes.length) = content.take position ++ bytes := by
    rw [List.take_add, h, List.take_left]
  have hsize : (Fingerprint.ofContent limit (content.take position)).size =
      min limit (min position content.length) := by
    rw [Fingerprint.ofContent, Fingerprint.size, List.length_take, List.length_take]
  rw [hnext, extend, hsize]
  split
  · next hc =>
    have hlength : (content.take position).length = position := by
      rw [List.length_take]
      omega
    rw [Fingerprint.append, hsize, ← hc.2, Fingerprint.ofContent, Fingerprint.ofContent,
      List.take_append, hlength]
  · next hc =>
    rcases Nat.lt_or_ge content.length position with hpast | hin
    · have hdrop : content.drop position = [] := List.drop_of_length_le (Nat.le_of_lt hpast)
      have hbytes : bytes = [] := (List.append_eq_nil_iff.mp (h.symm.trans hdrop)).1
      rw [hbytes, List.append_nil]
    · rw [Fingerprint.ofContent, Fingerprint.ofContent, List.take_append_of_le_length]
      rw [List.length_take]
      omega

theorem Completing.read (h : Completing content s) (n : Nat) : Completing content (s.read n).2 where
  stream := stream_read_eq_drop h.stream n
  fingerprint := by
    rw [fingerprint_read, h.fingerprint, limit_read, position_read,
      extend_ofContent_take (h.stream.symm.trans (stream_read s n))]

theorem Completing.readEach (h : Completing content s) (sizes : List Nat) :
    Completing content (s.readEach sizes) := by
  induction sizes generalizing s with
  | nil => exact h
  | cons n rest ih => exact ih (h.read n)

/-- At the end of the file the fingerprint is complete. -/
theorem Completing.fingerprint_of_ended (h : Completing content s) (hend : s.stream = []) :
    s.fingerprint = .ofContent s.limit content := by
  have hlength : content.length ≤ s.position := List.drop_eq_nil_iff.mp (h.stream.symm.trans hend)
  rw [h.fingerprint, List.take_of_length_le hlength]

/-! ## Before the end of the fingerprint -/

/-- The source reads the file from a place in its fingerprint, which is that of the first `known` bytes and
may grow. -/
structure Waiting (content : Bytes) (known : Nat) (s : Source) : Prop where
  stream : s.stream = content.drop s.position
  fingerprint : s.fingerprint = .ofContent known content
  known_lt : known < s.limit
  known_le : known ≤ content.length
  position_le : s.position ≤ known

namespace Waiting

variable {known : Nat}

theorem size_fingerprint (h : Waiting content known s) : s.fingerprint.size = known := by
  rw [h.fingerprint, Fingerprint.ofContent, Fingerprint.size,
    List.length_take_of_le h.known_le]

/-- A source that has come to the end of its fingerprint completes it from there. -/
theorem completing (h : Waiting content known s) (hplace : s.position = known) :
    Completing content s where
  stream := h.stream
  fingerprint := by
    have hlt := h.known_lt
    rw [h.fingerprint, hplace, Fingerprint.ofContent, Fingerprint.ofContent, List.take_take,
      Nat.min_eq_right (Nat.le_of_lt hlt)]

theorem read (h : Waiting content known s) (hplace : s.position < known) {n : Nat}
    (hle : (s.read n).2.position ≤ known) : Waiting content known (s.read n).2 where
  stream := stream_read_eq_drop h.stream n
  fingerprint := by
    rw [fingerprint_read_of_ne (h.size_fingerprint.symm ▸ Nat.ne_of_lt hplace), h.fingerprint]
  known_lt := by
    rw [limit_read]
    exact h.known_lt
  known_le := h.known_le
  position_le := hle

/-- What becomes of the fingerprint is settled by the first read that comes to its end or goes past it. -/
theorem readEach (h : Waiting content known s) (sizes : List Nat) :
    (s.Stops sizes known → Completing content (s.readEach sizes)) ∧
      (¬ s.Stops sizes known → (s.readEach sizes).fingerprint = .ofContent known content) := by
  induction sizes generalizing s with
  | nil =>
    refine ⟨?_, fun _ => h.fingerprint⟩
    rintro ⟨front, hfront, hplace⟩
    rw [List.prefix_nil.mp hfront] at hplace
    exact h.completing hplace
  | cons n rest ih =>
    rw [stops_cons_iff]
    rcases Nat.lt_or_eq_of_le h.position_le with hbefore | hplace
    · rw [or_iff_right (Nat.ne_of_lt hbefore)]
      rcases Nat.lt_or_ge known (s.read n).2.position with hpast | hle
      · -- the read goes past the end of the fingerprint
        have hsame := fingerprint_read_of_ne (h.size_fingerprint.symm ▸ Nat.ne_of_lt hbefore) n
        refine ⟨fun hstops => absurd hstops (not_stops_of_lt hpast rest), fun _ => ?_⟩
        rw [readEach_cons, fingerprint_readEach_of_lt, hsame, h.fingerprint]
        rwa [hsame, h.size_fingerprint]
      · exact ih (h.read hbefore hle)
    · refine ⟨fun _ => (h.completing hplace).readEach (n :: rest), fun hnot => ?_⟩
      exact absurd (.inl hplace) hnot

/-- A file with nothing behind the fingerprint ends where the fingerprint does. -/
theorem stops_of_length_eq (h : Waiting content known s) {sizes : List Nat}
    (hend : (s.readEach sizes).stream = []) (hlength : content.length = known) :
    s.Stops sizes known := by
  refine ⟨sizes, List.prefix_rfl, ?_⟩
  have hcount := position_add_stream_readEach s sizes
  have hle := h.position_le
  rw [hend, h.stream, List.length_nil, List.length_drop] at hcount
  omega

/-- **When reading completes a fingerprint.** A source reads a file to its end, from a place in a fingerprint
of the file's first `known` bytes, in reads of any sizes and with any pieces, interruptions and failures. The
fingerprint is then that of the file just if the source has stood at the end of the old one before, between
or after its reads. Else it is still the old one. -/
theorem completes_iff_stops (h : Waiting content known s) (sizes : List Nat)
    (hend : (s.readEach sizes).stream = []) :
    ((s.readEach sizes).fingerprint = .ofContent s.limit content ↔ s.Stops sizes known) ∧
      (¬ s.Stops sizes known → (s.readEach sizes).fingerprint = .ofContent known content) := by
  obtain ⟨hcompleting, hkept⟩ := h.readEach sizes
  refine ⟨⟨fun hwhole => ?_, fun hstops => ?_⟩, hkept⟩
  · by_contra hnot
    have hsame : content.take s.limit = content.take known :=
      congrArg Fingerprint.bytes (hwhole.symm.trans (hkept hnot))
    have hlength := congrArg List.length hsame
    rw [List.length_take, List.length_take, Nat.min_eq_left h.known_le] at hlength
    have hlt := h.known_lt
    exact hnot (h.stops_of_length_eq hend (by omega))
  · have hcompleted := (hcompleting hstops).fingerprint_of_ended hend
    rwa [limit_readEach] at hcompleted

/-- The file `0123ABCD`, read from its third byte on with a fingerprint of four bytes that may grow to six.
The first read ends with the fingerprint, the next one is interrupted. -/
theorem completes_of_stop :
    let content : Bytes := [0x30, 0x31, 0x32, 0x33, 0x41, 0x42, 0x43, 0x44]
    let script := [.data [0x32, 0x33], .interrupted, .data [0x41, 0x42, 0x43, 0x44]]
    let first : Source := ⟨script, 2, .ofContent 4 content, 6⟩
    Waiting content 4 first ∧ (first.readEach [6, 6, 3, 6]).stream = [] ∧
      (first.readEach [6, 6, 3, 6]).fingerprint = .ofContent 6 content := by
  intro content script first
  have hwaiting : Waiting content 4 first := ⟨by decide, rfl, by decide, by decide, by decide⟩
  have hend : (first.readEach [6, 6, 3, 6]).stream = [] := by decide
  exact ⟨hwaiting, hend, (hwaiting.completes_iff_stops _ hend).1.mpr ⟨[6], by decide, by decide⟩⟩

/-- The same file in one piece: the first read goes past the end of the fingerprint, and the fingerprint has
four bytes when the file has been read to its end. -/
theorem not_completes_of_straddling :
    let content : Bytes := [0x30, 0x31, 0x32, 0x33, 0x41, 0x42, 0x43, 0x44]
    let first : Source := ⟨[.data (content.drop 2)], 2, .ofContent 4 content, 8⟩
    Waiting content 4 first ∧ (first.readEach [6, 6]).stream = [] ∧
      (first.readEach [6, 6]).fingerprint ≠ .ofContent 8 content := by
  intro content first
  exact ⟨⟨by decide, rfl, by decide, by decide, by decide⟩, by decide, by decide⟩

end Waiting

end Source

end LogFollow
