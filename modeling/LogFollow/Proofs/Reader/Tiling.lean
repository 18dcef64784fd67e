import LogFollow.Proofs.Bytes
import LogFollow.Proofs.Reader.Faults

/-!
# The tokens of a growing file

A file grows while it is read, and its tail is delivered whenever it has not grown in between: what is
a tail for one reading may be the beginning of a line for the next. This module shows that the bytes
that a reader has passed are accounted for all the same. Each of them lies in just one of the tokens
that were delivered, the header lines, and the line endings. A carriage return before a newline
belongs to the ending, unless the reader once stood between the two: then it was the end of a tail.
-/
namespace LogFollow

open Lines (newline carriageReturn)

/-- Whether an index lies in a span. -/
def Span.has (s : Span) (i : Nat) : Bool := s.start ≤ i && i < s.stop

/-- The byte at an index belongs to the ending of a line: it is a newline, or a carriage return before a
newline. No reading has stopped between the two. -/
def EndsLine (content : Bytes) (stops : List Nat) (i : Nat) : Prop :=
  content[i]? = some newline ∨
    content[i]? = some carriageReturn ∧ content[i + 1]? = some newline ∧ i + 1 ∉ stops

instance (content : Bytes) (stops : List Nat) (i : Nat) : Decidable (EndsLine content stops i) :=
  inferInstanceAs (Decidable (_ ∨ _))

/-- The events of these tokens have been delivered, and every byte from `start` up to `stop` is in just
one of the tokens, the header lines and the line endings. -/
structure Tiling (settings : ReadSettings) (content : Bytes) (stops : List Nat) (start stop : Nat)
    (events : List Event) (tokens headers : List Span) : Prop where
  bodies : events.map (·.body) =
    tokens.map fun token => settings.encoding.body (Bytes.slice content token.start token.stop)
  rules : ∀ line ∈ headers, settings.isHeaderLine (Bytes.slice content line.start line.stop)
  ordered : tokens.Pairwise fun a b => a.stop ≤ b.start
  within : ∀ span ∈ tokens ++ headers, start ≤ span.start ∧ span.start < span.stop ∧ span.stop ≤ stop
  once : ∀ i, start ≤ i → i < stop →
    tokens.countP (·.has i) + headers.countP (·.has i) +
      (if EndsLine content stops i then 1 else 0) = 1

namespace Tiling

variable {settings : ReadSettings} {content : Bytes} {stops : List Nat} {start stop : Nat}
  {events : List Event} {tokens headers : List Span}

theorem nil (settings : ReadSettings) (content : Bytes) (stops : List Nat) (place : Nat) :
    Tiling settings content stops place place [] [] [] :=
  ⟨rfl, fun _ h => absurd h List.not_mem_nil, .nil, fun _ h => absurd h List.not_mem_nil,
    fun i h h' => absurd h' (by omega)⟩

/-- Outside of a tiling none of its spans has an index. -/
theorem countP_eq_zero (h : Tiling settings content stops start stop events tokens headers)
    {i : Nat} (hi : i < start ∨ stop ≤ i) :
    tokens.countP (·.has i) = 0 ∧ headers.countP (·.has i) = 0 := by
  have hout : ∀ span ∈ tokens ++ headers, ¬ span.has i = true := by
    intro span hs
    obtain ⟨h₁, -, h₂⟩ := h.within span hs
    simp only [Span.has, Bool.and_eq_true, decide_eq_true_eq]
    omega
  rw [List.countP_eq_zero, List.countP_eq_zero]
  exact ⟨fun span hs => hout span (List.mem_append_left _ hs),
    fun span hs => hout span (List.mem_append_right _ hs)⟩

/-- Two tilings, the second one from where the first one stops. -/
theorem append {mid : Nat} {events' : List Event} {tokens' headers' : List Span}
    (h : Tiling settings content stops start mid events tokens headers)
    (h' : Tiling settings content stops mid stop events' tokens' headers') (hs : start ≤ mid)
    (hm : mid ≤ stop) :
    Tiling settings content stops start stop (events ++ events') (tokens ++ tokens')
      (headers ++ headers') := by
  refine ⟨?_, ?_, ?_, ?_, ?_⟩
  · rw [List.map_append, List.map_append, h.bodies, h'.bodies]
  · intro line hl
    rcases List.mem_append.mp hl with hl | hl
    · exact h.rules line hl
    · exact h'.rules line hl
  · refine List.pairwise_append.mpr ⟨h.ordered, h'.ordered, fun a ha b hb => ?_⟩
    exact Nat.le_trans (h.within a (List.mem_append_left _ ha)).2.2
      (h'.within b (List.mem_append_left _ hb)).1
  · intro span hspan
    have hcases : span ∈ tokens ++ headers ∨ span ∈ tokens' ++ headers' := by
      simp only [List.mem_append] at hspan ⊢
      tauto
    rcases hcases with hspan | hspan
    · have hw := h.within span hspan
      omega
    · have hw := h'.within span hspan
      omega
  · intro i hi hi'
    rw [List.countP_append, List.countP_append]
    by_cases hlt : i < mid
    · have hz := h'.countP_eq_zero (.inl hlt)
      have ho := h.once i hi hlt
      omega
    · have hz := h.countP_eq_zero (.inr (Nat.not_lt.mp hlt))
      have ho := h'.once i (Nat.not_lt.mp hlt) hi'
      omega

/-- A tiling stays one when the file grows and readings stop elsewhere, if the line endings in its
range stay the same. -/
theorem grow (h : Tiling settings content stops start stop events tokens headers) (more : Bytes)
    (stops' : List Nat) (hl : stop ≤ content.length)
    (he : ∀ i, start ≤ i → i < stop →
      (EndsLine (content ++ more) stops' i ↔ EndsLine content stops i)) :
    Tiling settings (content ++ more) stops' start stop events tokens headers := by
  have hslice : ∀ span ∈ tokens ++ headers,
      Bytes.slice (content ++ more) span.start span.stop =
        Bytes.slice content span.start span.stop := by
    intro span hs
    have hw := h.within span hs
    exact Bytes.slice_append (by omega) more
  refine ⟨?_, ?_, h.ordered, h.within, ?_⟩
  · rw [h.bodies]
    refine List.map_congr_left fun token ht => ?_
    rw [hslice token (List.mem_append_left _ ht)]
  · intro line hm
    rw [hslice line (List.mem_append_right _ hm)]
    exact h.rules line hm
  · intro i hi hi'
    rw [if_congr (he i hi hi') rfl rfl]
    exact h.once i hi hi'

/-- The piece of a token: where the token has no byte, a line ends. -/
theorem piece (settings : ReadSettings) (file : Attributes) (h : HeaderState) (token : Span)
    (hs : start ≤ token.start ∧ token.start ≤ token.stop ∧ token.stop ≤ stop)
    (hl : token.stop ≤ content.length)
    (he : ∀ i, start ≤ i → i < stop → (EndsLine content stops i ↔ token.has i = false)) :
    ∃ tokens headers, Tiling settings content stops start stop
      (h.events settings file
        (Lines.text (.token (Bytes.slice content token.start token.stop)))) tokens headers := by
  have hlen : (Bytes.slice content token.start token.stop).length = token.stop - token.start := by
    rw [Bytes.length_slice]
    omega
  have honce : ∀ i, start ≤ i → i < stop →
      (if token.has i = true then 1 else 0) + (if EndsLine content stops i then 1 else 0) = 1 := by
    intro i hi hi'
    rw [if_congr (he i hi hi') rfl rfl]
    cases token.has i <;> rfl
  by_cases hempty : Bytes.slice content token.start token.stop = []
  · rw [hempty, List.length_nil] at hlen
    rw [Lines.text, if_pos hempty]
    refine ⟨[], [], rfl, fun _ h => absurd h List.not_mem_nil, .nil,
      fun _ h => absurd h List.not_mem_nil, fun i hi hi' => ?_⟩
    have hno : token.has i = false := by
      simp only [Span.has, Bool.and_eq_false_iff, decide_eq_false_iff_not]
      omega
    have ho := honce i hi hi'
    rw [hno] at ho
    simpa using ho
  · have hpos : token.start < token.stop := by
      have := List.length_pos_iff.mpr hempty
      omega
    rw [Lines.text, if_neg hempty]
    rcases hm : h.meet settings (Bytes.slice content token.start token.stop) with ⟨_ | _, h'⟩
    · rw [HeaderState.events_delivered hm]
      refine ⟨[token], [], rfl, fun _ h => absurd h List.not_mem_nil, List.pairwise_singleton _ _,
        ?_, fun i hi hi' => ?_⟩
      · intro span hspan
        obtain rfl := List.mem_singleton.mp hspan
        omega
      · rw [List.countP_singleton, List.countP_nil, Nat.add_zero]
        exact honce i hi hi'
    · rw [HeaderState.events_headerLine hm]
      refine ⟨[], [token], rfl, ?_, .nil, ?_, fun i hi hi' => ?_⟩
      · intro line hline
        obtain rfl := List.mem_singleton.mp hline
        exact HeaderState.isHeaderLine_of_meet hm
      · intro span hspan
        obtain rfl := List.mem_singleton.mp hspan
        omega
      · rw [List.countP_singleton, List.countP_nil, Nat.zero_add]
        exact honce i hi hi'

end Tiling

/-! ## The tiling of one reading -/

section

variable {content line rest : Bytes} {stops : List Nat} {place : Nat}

/-- Where no newline follows, no line ends. -/
theorem not_endsLine (hd : content.drop place = rest) (hn : newline ∉ rest) {i : Nat}
    (hi : place ≤ i) : ¬ EndsLine content stops i := by
  have hbyte : ∀ j, place ≤ j → content[j]? ≠ some newline := by
    intro j hj h
    obtain ⟨n, rfl⟩ := Nat.exists_eq_add_of_le hj
    rw [Bytes.getElem?_of_drop hd] at h
    exact hn (List.mem_of_getElem? h)
  rintro (h | ⟨-, h, -⟩)
  · exact hbyte i hi h
  · exact hbyte (i + 1) (by omega) h

/-- The ending of a line is what trimming takes off it, and its newline. -/
theorem endsLine_iff (hd : content.drop place = line ++ newline :: rest) (hl : newline ∉ line)
    (hs : line ≠ [] → place + line.length ∉ stops) {n : Nat} (hn : n ≤ line.length) :
    EndsLine content stops (place + n) ↔ (Lines.trim line).length ≤ n := by
  have hinside : ∀ k, k < line.length → content[place + k]? = (line : Bytes)[k]? := by
    intro k hk
    rw [Bytes.getElem?_of_drop hd, List.getElem?_append_left hk]
  have hend : content[place + line.length]? = some newline := by
    rw [Bytes.getElem?_of_drop hd, List.getElem?_append_right (Nat.le_refl _), Nat.sub_self]
    rfl
  have hno : ∀ k, k < line.length → content[place + k]? ≠ some newline := by
    intro k hk h
    rw [hinside k hk] at h
    exact hl (List.mem_of_getElem? h)
  have hlast : line.getLast? = (line : Bytes)[line.length - 1]? := List.getLast?_eq_getElem?
  have hone := Lines.length_le_length_trim line
  constructor
  · rintro (h | ⟨hc, h, -⟩)
    · by_contra hlt
      have := Lines.length_trim_le line
      exact hno n (by omega) h
    · -- the carriage return is the last byte of the line, so it is trimmed
      by_contra hlt
      have hle := Lines.length_trim_le line
      have hnext : n + 1 = line.length := by
        by_contra hne
        exact hno (n + 1) (by omega) h
      rw [hinside n (by omega), show n = line.length - 1 by omega, ← hlast] at hc
      rw [Lines.trim, if_pos hc, List.length_dropLast] at hlt
      omega
  · intro h
    by_cases hnl : n = line.length
    · exact .inl (hnl ▸ hend)
    · have htrim : line.getLast? = some carriageReturn := by
        by_contra hc
        rw [Lines.trim, if_neg hc] at h
        omega
      have hnext : n = line.length - 1 := by omega
      have hsucc : place + n + 1 = place + line.length := by omega
      have hne : line ≠ [] := by
        rintro rfl
        cases htrim
      refine .inr ⟨?_, by rw [hsucc]; exact hend, by rw [hsucc]; exact hs hne⟩
      rw [hinside n (by omega), hnext, ← hlast, htrim]

end

namespace Lines

theorem tokens_line {line : Bytes} (h : newline ∉ line) (rest : Bytes) :
    tokens (line ++ newline :: rest) = text (.token (trim line)) ++ tokens rest := by
  rw [tokens_eq, tokens_eq, contents_line h, tail_line h, List.append_assoc]

end Lines

namespace Tiling

variable {settings : ReadSettings} {content : Bytes} {stops : List Nat} {start stop : Nat}
  {events : List Event} {tokens headers : List Span}

theorem line (settings : ReadSettings) (file : Attributes) (h : HeaderState) {place : Nat}
    {line rest : Bytes} (hd : content.drop place = line ++ newline :: rest) (hl : newline ∉ line)
    (hs : line ≠ [] → place + line.length ∉ stops) :
    ∃ tokens headers, Tiling settings content stops place (place + line.length + 1)
      (h.events settings file (Lines.text (.token (Lines.trim line)))) tokens headers := by
  have hle := Lines.length_trim_le line
  have hlen := congrArg List.length hd
  rw [List.length_drop, List.length_append, List.length_cons] at hlen
  have hslice : Bytes.slice content place (place + (Lines.trim line).length) = Lines.trim line := by
    rw [Bytes.slice_of_drop hd, Lines.take_length_trim]
  rw [← hslice]
  refine piece settings file h ⟨place, place + (Lines.trim line).length⟩ (by simp only; omega)
    (by simp only; omega) fun i hi hi' => ?_
  obtain ⟨n, rfl⟩ := Nat.exists_eq_add_of_le hi
  rw [endsLine_iff hd hl hs (by omega)]
  simp only [Span.has, Bool.and_eq_false_iff, decide_eq_false_iff_not]
  omega

theorem tail (settings : ReadSettings) (file : Attributes) (h : HeaderState) {place : Nat}
    {rest : Bytes} (hd : content.drop place = rest) (hn : newline ∉ rest)
    (hl : place ≤ content.length) :
    ∃ tokens headers, Tiling settings content stops place (place + rest.length)
      (h.events settings file (Lines.text (.token rest))) tokens headers := by
  have hlen := congrArg List.length hd
  rw [List.length_drop] at hlen
  have hslice : Bytes.slice content place (place + rest.length) = rest := by
    rw [Bytes.slice_of_drop hd, List.take_length]
  conv in h.events settings file _ => rw [← hslice]
  refine piece settings file h ⟨place, place + rest.length⟩ (by simp only; omega)
    (by simp only; omega) fun i hi hi' => ?_
  refine iff_of_false (not_endsLine hd hn hi) ?_
  simp only [Span.has, Bool.and_eq_false_iff, decide_eq_false_iff_not]
  omega

/-- What a reading passes is tiled by the lines in it, and by the tail if it gets that far. -/
theorem front (settings : ReadSettings) (file : Attributes) (h : HeaderState) {place : Nat}
    {front back : Bytes} (hd : content.drop place = front ++ back)
    (he : Lines.tail front = [] ∨ back = []) (hl : place ≤ content.length)
    (hs : ∀ s ∈ stops, s ≤ place ∨ place + front.length ≤ s) :
    ∃ tokens headers, Tiling settings content stops place (place + front.length)
      (h.events settings file (Lines.tokens front)) tokens headers := by
  induction front using Lines.induct generalizing place h with
  | unended data hn =>
    rw [Lines.tokens_of_notMem hn]
    rw [Lines.tail_of_notMem hn] at he
    rcases he with rfl | rfl
    · exact ⟨[], [], .nil settings content stops place⟩
    · exact tail settings file h (by rwa [List.append_nil] at hd) hn hl
  | line l rest hn ih =>
    rw [List.append_assoc, List.cons_append] at hd
    rw [Lines.tail_line hn] at he
    rw [List.length_append, List.length_cons] at hs ⊢
    have hlen := congrArg List.length hd
    rw [List.length_drop, List.length_append, List.length_cons] at hlen
    have hnext : content.drop (place + l.length + 1) = rest ++ back := by
      rw [Nat.add_assoc, ← List.drop_drop, hd]
      simp [List.drop_append]
    have hstop : l ≠ [] → place + l.length ∉ stops := by
      intro hne hmem
      have hpos := List.length_pos_iff.mpr hne
      have := hs _ hmem
      omega
    obtain ⟨tokens, headers, hline⟩ := line settings file h hd hn hstop
    obtain ⟨tokens', headers', hrest⟩ := ih (h.past settings (Lines.text (.token (Lines.trim l))))
      hnext he (by omega) (fun s hmem => by have := hs s hmem; omega)
    refine ⟨tokens ++ tokens', headers ++ headers', ?_⟩
    rw [Lines.tokens_line hn, HeaderState.events_append]
    have happend := hline.append hrest (by omega) (by omega)
    rwa [show place + l.length + 1 + rest.length = place + (l.length + (rest.length + 1)) by omega]
      at happend

end Tiling

/-! ## Many readings of a growing file -/

namespace Reader

variable {settings : ReadSettings} {first r : Reader} {content start : Bytes}
  {events : List Event} {stops : List Nat}

/-- What has become of a reader `first` of a file `start`, in a row of appends to the file, readings and
last readings, each with a sink of its own, which may be cancelled in front of any item, also of an empty
or a header line: the file, the reader, the events that were accepted, and the offsets that the readings
have stopped at, the last one first. -/
inductive Track (settings : ReadSettings) (first : Reader) (start : Bytes) :
    Bytes → Reader → List Event → List Nat → Prop
  | start : Track settings first start start first [] []
  | append {content : Bytes} {r : Reader} {events : List Event} {stops : List Nat} (more : Bytes) :
      Track settings first start content r events stops →
      Track settings first start (content ++ more) r events stops
  | read {content : Bytes} {r : Reader} {events : List Event} {stops : List Nat}
      (fs : FileSystem) (sink : Sink) : Track settings first start content r events stops →
      fs.openPath r.path = .ok (.file content) →
      Track settings first start content
        (r.readToEnd settings fs { sink with accepted := [] }).reader
        (events ++ (r.readToEnd settings fs { sink with accepted := [] }).sink.accepted)
        ((r.readToEnd settings fs { sink with accepted := [] }).reader.offset :: stops)
  | retire {content : Bytes} {r : Reader} {events : List Event} {stops : List Nat}
      (fs : FileSystem) (sink : Sink) : Track settings first start content r events stops →
      fs.openPath r.path = .ok (.file content) →
      Track settings first start content
        (r.retire settings fs { sink with accepted := [] }).reader
        (events ++ (r.retire settings fs { sink with accepted := [] }).sink.accepted)
        ((r.retire settings fs { sink with accepted := [] }).reader.offset :: stops)

/-- A call has passed the bytes `front` behind the offset. -/
structure Moves (settings : ReadSettings) (r : Reader) (content front back : Bytes)
    (reading : Reading) : Prop where
  split : content.drop r.offset = front ++ back
  ended : Lines.tail front = [] ∨ back = []
  accepted : reading.sink.accepted =
    r.header.events settings r.fileAttributes (Lines.tokens front)
  offset : reading.reader.offset = r.offset + front.length

theorem moves_read (hp : settings.Lined) (hshort : Lines.Short settings.maxLogSize content)
    {fs : FileSystem} (ho : fs.openPath r.path = .ok (.file content))
    (hl : r.offset ≤ content.length) (sink : Sink) (hs : sink.accepted = []) (flush : Bool) :
    ∃ front back, Moves settings r content front back (r.read settings fs sink flush) := by
  obtain ⟨front, back, h⟩ := proceeds_readOpened hp (hshort.drop r.offset) sink flush
  rw [read_of_openPath ho hl]
  refine ⟨front, back, h.split, h.ended, ?_, ?_⟩
  · rw [h.accepted, hs, List.nil_append]
  · rw [h.reader]

theorem moves_retire (hp : settings.Lined) (hshort : Lines.Short settings.maxLogSize content)
    {fs : FileSystem} (ho : fs.openPath r.path = .ok (.file content))
    (hl : r.offset ≤ content.length) (sink : Sink) (hs : sink.accepted = []) :
    ∃ front back, Moves settings r content front back (r.retire settings fs sink) := by
  rw [retire_of_openPath settings ho]
  split
  · exact moves_read hp hshort ho hl sink hs true
  · exact ⟨[], content.drop r.offset, rfl, .inl rfl, hs, rfl⟩

/-- The bytes between two offsets are tiled, and no call has moved the offset back. -/
structure Tiled (settings : ReadSettings) (base : Nat) (content : Bytes) (offset : Nat)
    (events : List Event) (stops : List Nat) : Prop where
  bounded : offset ≤ content.length
  ordered : (stops ++ [base]).Pairwise fun later earlier => earlier ≤ later
  last : (stops ++ [base]).head? = some offset
  tiling : ∃ tokens headers, Tiling settings content stops base offset events tokens headers

variable {base : Nat}

theorem Tiled.mem {offset : Nat} (h : Tiled settings base content offset events stops) :
    offset ∈ stops ∨ offset = base := by
  have hmem := List.mem_of_head? h.last
  rwa [List.mem_append, List.mem_singleton] at hmem

theorem Tiled.le {offset : Nat} (h : Tiled settings base content offset events stops) :
    ∀ s ∈ stops ++ [base], s ≤ offset := by
  intro s hs
  have hord := h.ordered
  have hlast := h.last
  generalize stops ++ [base] = all at hs hord hlast
  cases all with
  | nil => cases hlast
  | cons x rest =>
    obtain rfl : x = offset := Option.some.inj hlast
    rcases List.mem_cons.mp hs with rfl | hs
    · exact Nat.le_refl _
    · exact (List.pairwise_cons.mp hord).1 s hs

/-- Bytes behind the offset change nothing in front of it, since a carriage return there that a newline
then follows stands just before a stop. -/
theorem Tiled.append {offset : Nat} (h : Tiled settings base content offset events stops)
    (more : Bytes) : Tiled settings base (content ++ more) offset events stops := by
  obtain ⟨tokens, headers, ht⟩ := h.tiling
  have hb := h.bounded
  refine ⟨?_, h.ordered, h.last, tokens, headers, ht.grow more stops hb fun i hi hi' => ?_⟩
  · rw [List.length_append]
    omega
  · have hbyte : (content ++ more)[i]? = content[i]? := List.getElem?_append_left (by omega)
    rw [EndsLine, EndsLine, hbyte]
    by_cases hnext : i + 1 < content.length
    · rw [List.getElem?_append_left hnext]
    · have hstop : i + 1 ∈ stops := by
        rcases h.mem with hmem | hfrom
        · rwa [show i + 1 = offset by omega]
        · omega
      simp [hstop]

/-- One call more tiles what it has passed. -/
theorem Tiled.call (h : Tiled settings base content r.offset events stops) {front back : Bytes}
    {reading : Reading} (hm : Moves settings r content front back reading) :
    Tiled settings base content reading.reader.offset (events ++ reading.sink.accepted)
      (reading.reader.offset :: stops) := by
  obtain ⟨tokens, headers, ht⟩ := h.tiling
  have hb := h.bounded
  have hlen := congrArg List.length hm.split
  rw [List.length_drop, List.length_append] at hlen
  have hle : ∀ s ∈ stops ++ [base], s ≤ reading.reader.offset := by
    intro s hs
    have := h.le s hs
    rw [hm.offset]
    omega
  refine ⟨by rw [hm.offset]; omega, ?_, rfl, ?_⟩
  · exact List.pairwise_cons.mpr ⟨hle, h.ordered⟩
  · -- the new stop lies behind what is tiled so far, or is one of the old stops
    have hold : Tiling settings content (reading.reader.offset :: stops) base r.offset events
        tokens headers := by
      have hg := ht.grow [] (reading.reader.offset :: stops) hb fun i hi hi' => ?_
      · rwa [List.append_nil] at hg
      · have hiff : i + 1 ∉ reading.reader.offset :: stops ↔ i + 1 ∉ stops := by
          rw [List.mem_cons, not_or]
          refine ⟨And.right, fun hn => ⟨fun heq => ?_, hn⟩⟩
          rw [hm.offset] at heq
          rcases h.mem with hmem | hfrom
          · exact hn (by rwa [show i + 1 = r.offset by omega])
          · omega
        rw [EndsLine, EndsLine, List.append_nil, hiff]
    have hout : ∀ s ∈ reading.reader.offset :: stops, s ≤ r.offset ∨ r.offset + front.length ≤ s := by
      intro s hs
      rcases List.mem_cons.mp hs with rfl | hs
      · exact .inr (Nat.le_of_eq hm.offset.symm)
      · exact .inl (h.le s (List.mem_append_left _ hs))
    obtain ⟨tokens', headers', hnew⟩ :=
      Tiling.front settings r.fileAttributes r.header hm.split hm.ended hb hout
    rw [← hm.accepted, ← hm.offset] at hnew
    exact ⟨tokens ++ tokens', headers ++ headers', hold.append hnew
      (h.le base (List.mem_append_right _ (List.mem_singleton_self base))) (by rw [hm.offset]; omega)⟩

/-- **The bytes that a reader has passed are tiled.** Whatever was appended to the file in between, and
whatever the sinks have done, the offset has never moved back and is within the file; the tokens of
the accepted events are slices of the file, one behind the other; and each byte from the first offset
up to the last one is in just one of the tokens, the header lines and the line endings. -/
theorem Track.tiles (hp : settings.Lined) (hl : first.offset ≤ start.length)
    (h : Track settings first start content r events stops)
    (hshort : Lines.Short settings.maxLogSize content) :
    r.offset ≤ content.length ∧
      (stops ++ [first.offset]).Pairwise (fun later earlier => earlier ≤ later) ∧
      (stops ++ [first.offset]).head? = some r.offset ∧
      ∃ tokens headers,
        Tiling settings content stops first.offset r.offset events tokens headers := by
  have htiled : Tiled settings first.offset content r.offset events stops := by
    induction h with
    | start => exact ⟨hl, List.pairwise_singleton _ _, rfl, [], [], .nil _ _ _ _⟩
    | append more _ ih => exact (ih (hshort.of_infix (List.prefix_append _ more).isInfix)).append more
    | read fs sink _ ho ih =>
      obtain ⟨front, back, hm⟩ := moves_read hp hshort ho (ih hshort).bounded
        { sink with accepted := [] } rfl settings.deleteAfterRead
      exact (ih hshort).call hm
    | retire fs sink _ ho ih =>
      obtain ⟨front, back, hm⟩ := moves_retire hp hshort ho (ih hshort).bounded
        { sink with accepted := [] } rfl
      exact (ih hshort).call hm
  exact ⟨htiled.bounded, htiled.ordered, htiled.last, htiled.tiling⟩

/-- The line `a` with a carriage return before its newline. -/
def splitEnding : Bytes := [0x61, 0x0D, 0x0A]

/-- The newline is appended when the bytes before it have been delivered as a tail. -/
theorem track_splitEnding :
    ∃ r events stops,
      Track fourByteLines (.new fourByteLines (oneFile (splitEnding.take 2)) "a.log" ⟨[]⟩ 0)
        (splitEnding.take 2) splitEnding r events stops ∧
      r.offset = 3 ∧ events.map (·.body) = [.text "a\r"] := by
  let fs := oneFile (splitEnding.take 2)
  let first := Reader.new fourByteLines fs "a.log" ⟨[]⟩ 0
  have hp : fourByteLines.Lined := ⟨rfl, rfl, by decide⟩
  have hshort : Lines.Short fourByteLines.maxLogSize splitEnding :=
    (Lines.short_iff _ _).mpr (by decide)
  have hshort' : Lines.Short fourByteLines.maxLogSize (splitEnding.take 2) :=
    hshort.of_infix (List.take_prefix 2 splitEnding).isInfix
  have ho : fs.openPath "a.log" = .ok (.file (splitEnding.take 2)) :=
    FileSystem.openPath_name FileSystem.isName_logs.1 rfl rfl
  have ho' : (oneFile splitEnding).openPath "a.log" = .ok (.file splitEnding) :=
    FileSystem.openPath_name FileSystem.isName_logs.1 rfl rfl
  have hw := Sink.healthy_willing
  -- the first two readings take the tail, since the file does not grow in between
  have hfirst : Passed fourByteLines first (splitEnding.take 2) [] [] (splitEnding.take 2) first :=
    .first fourByteLines rfl (splitEnding.take 2)
  have htail := hfirst.read_twice hp hshort' ho ho hw hw
  obtain ⟨_, _, honce, -⟩ := hfirst.read hp hshort' ho .healthy
  have hstart : Track fourByteLines first (splitEnding.take 2) (splitEnding.take 2) first [] [] :=
    .start
  have htrack := (hstart.read fs .healthy ho).read fs .healthy (by rw [honce.path]; exact ho)
  have hpath := htail.path
  have hoffset := htail.offset
  have hevents := htail.events
  generalize readToEnd fourByteLines fs (readToEnd fourByteLines fs first _).reader _ = second
    at hoffset hevents hpath htrack
  -- of the line only its newline is left
  have hread := (htrack.append [0x0A]).read (oneFile splitEnding) .healthy
    (by rw [hpath]; exact ho')
  obtain ⟨front, back, h₃⟩ := proceeds_readOpened hp (hshort.drop second.reader.offset) .healthy
    fourByteLines.deleteAfterRead
  rw [← read_of_openPath (by rw [hpath]; exact ho') (by rw [hoffset]; decide), ← readToEnd] at h₃
  have hsplit := h₃.split
  rw [hoffset] at hsplit
  obtain ⟨rfl, rfl⟩ : front = [0x0A] ∧ back = [] := by
    rcases List.cons_eq_append_iff.mp (show [(0x0A : UInt8)] = front ++ back from hsplit) with
      ⟨-, rfl⟩ | ⟨front, rfl, hnil⟩
    · exact absurd List.mem_cons_self (h₃.willing hw).2
    · obtain ⟨rfl, rfl⟩ := List.append_eq_nil_iff.mp hnil.symm
      exact ⟨rfl, rfl⟩
  refine ⟨_, _, _, hread, ?_, ?_⟩
  · refine (congrArg Reader.offset h₃.reader).trans ?_
    rw [hoffset]
    rfl
  · have haccepted := h₃.accepted
    rw [show Lines.tokens [0x0A] = [] by decide, HeaderState.events] at haccepted
    refine (congrArg (List.map _) (congrArg₂ (· ++ ·) hevents haccepted)).trans ?_
    decide +kernel

/-- The reader once stood between the carriage return and the newline, so each byte is accounted for
once. -/
theorem tiles_splitEnding :
    fourByteLines.Lined ∧ Lines.Short fourByteLines.maxLogSize splitEnding ∧
      ∃ r events stops,
        Track fourByteLines (.new fourByteLines (oneFile (splitEnding.take 2)) "a.log" ⟨[]⟩ 0)
          (splitEnding.take 2) splitEnding r events stops ∧
        r.offset = 3 ∧ events.map (·.body) = [.text "a\r"] ∧
        ∃ tokens headers, Tiling fourByteLines splitEnding stops 0 r.offset events tokens headers := by
  obtain ⟨r, events, stops, htrack, hoffset, hevents⟩ := track_splitEnding
  have hp : fourByteLines.Lined := ⟨rfl, rfl, by decide⟩
  have hshort : Lines.Short fourByteLines.maxLogSize splitEnding :=
    (Lines.short_iff _ _).mpr (by decide)
  exact ⟨hp, hshort, r, events, stops, htrack, hoffset, hevents,
    (Track.tiles hp (Nat.zero_le _) htrack hshort).2.2.2⟩

/-- Were the carriage return part of the line ending, it would be accounted for twice. -/
theorem not_tiles_splitEnding :
    ∃ r events stops,
      Track fourByteLines (.new fourByteLines (oneFile (splitEnding.take 2)) "a.log" ⟨[]⟩ 0)
        (splitEnding.take 2) splitEnding r events stops ∧
      ¬ ∃ tokens headers, Tiling fourByteLines splitEnding [] 0 r.offset events tokens headers := by
  obtain ⟨r, events, stops, htrack, hoffset, hevents⟩ := track_splitEnding
  refine ⟨r, events, stops, htrack, ?_⟩
  rintro ⟨tokens, headers, ht⟩
  have hbodies := ht.bodies
  rw [hevents] at hbodies
  obtain ⟨token, rfl⟩ : ∃ token, tokens = [token] := by
    rw [← List.length_eq_one_iff, ← List.length_map, ← hbodies]
    rfl
  -- the token is made of the first two bytes
  have hall : ∀ a < 3, ∀ b < 4, a < b →
      Body.text "a\r" = fourByteLines.encoding.body (Bytes.slice splitEnding a b) →
      (Span.mk a b).has 1 = true := by decide +kernel
  have hwithin := ht.within token (List.mem_append_left _ List.mem_cons_self)
  have hhas := hall token.start (by omega) token.stop (by omega) hwithin.2.1
    (List.cons.inj hbodies).1
  have honce := ht.once 1 (by omega) (by omega)
  rw [List.countP_singleton, if_pos hhas, if_pos (by decide)] at honce
  omega

end Reader

end LogFollow
