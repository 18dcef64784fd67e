import LogFollow.Proofs.Units

/-!
# Decoders that work line by line

Bytes can be cut into lines and then decoded, or decoded and then cut. Both give the same lines if a
newline ends what is unfinished in front of it and leaves the decoder as it was in the beginning, and no
other code unit gives a newline. So a malformed sequence, an unpaired surrogate and an odd byte in the
end stay on their line.
-/
namespace LogFollow

namespace Text

/-- The lines of a text: cut at each newline, each without one carriage return at its end, and the text
behind the last newline. -/
def lines (text : List Char) : List (List Char) :=
  (Segments.whole '\n' text).map (Segments.trim '\r') ++ [Segments.tail '\n' text]

/-! ## Automata -/

namespace Automaton

variable {σ : Type} (a : Automaton σ)

/-- The characters that some bytes complete, and the state behind them. -/
def feed : σ → Bytes → List Char × σ
  | s, [] => ([], s)
  | s, b :: rest =>
    ((a.step s b).1 ++ (feed (a.step s b).2 rest).1, (feed (a.step s b).2 rest).2)

/-- The characters of some bytes and of the end behind them. -/
def read (s : σ) (bytes : Bytes) : List Char := (a.feed s bytes).1 ++ a.flush (a.feed s bytes).2

theorem runFrom_eq (s : σ) (done : List Char) (bytes : Bytes) :
    a.runFrom s done bytes = done.reverse ++ a.read s bytes := by
  induction bytes generalizing s done with
  | nil => rfl
  | cons b rest ih =>
    change a.runFrom (a.step s b).2 ((a.step s b).1.reverse ++ done) rest = _
    rw [ih, List.reverse_append, List.reverse_reverse, List.append_assoc, read, read, feed,
      List.append_assoc]

theorem run_eq (bytes : Bytes) : a.run bytes = a.read a.start bytes := a.runFrom_eq _ [] bytes

theorem feed_append (s : σ) (front rest : Bytes) :
    a.feed s (front ++ rest) =
      ((a.feed s front).1 ++ (a.feed (a.feed s front).2 rest).1,
        (a.feed (a.feed s front).2 rest).2) := by
  induction front generalizing s with
  | nil => rfl
  | cons b front ih => rw [List.cons_append, feed, ih, feed, List.append_assoc]

theorem read_append (s : σ) (front rest : Bytes) :
    a.read s (front ++ rest) = (a.feed s front).1 ++ a.read (a.feed s front).2 rest := by
  rw [read, feed_append, read, List.append_assoc]

theorem feed_singleton (s : σ) (b : UInt8) : a.feed s [b] = a.step s b := by
  rw [feed, feed, List.append_nil]

/-- The automaton decodes line by line. In the states between two code units, a newline ends what is
unfinished and leads back to the start, and so does a carriage return; no other code unit, and no part
of one, gives a newline or ends with a carriage return. -/
structure LineWise (e : Encoding) (between : σ → Prop) : Prop where
  start : between a.start
  empty : a.flush a.start = []
  newline : ∀ s, between s → a.feed s e.newline = (a.flush s ++ ['\n'], a.start)
  carriageReturn : ∀ s, between s → a.feed s e.carriageReturn = (a.flush s ++ ['\r'], a.start)
  unit : ∀ s unit, between s → unit.length = e.codeUnit → between (a.feed s unit).2
  part : ∀ s part, between s → part.length ≤ e.codeUnit → part ≠ e.newline → '\n' ∉ a.read s part
  last : ∀ s part, between s → part ≠ [] → part.length ≤ e.codeUnit →
    ∃ c, (a.read s part).getLast? = some c ∧ (part ≠ e.carriageReturn → c ≠ '\r')

variable {a} {e : Encoding} {between : σ → Prop} {line data : Bytes} {s : σ}

namespace LineWise

/-- Behind whole code units the decoder is between two of them. -/
theorem between_feed (h : a.LineWise e between) (hs : between s) (hl : e.codeUnit ∣ line.length) :
    between (a.feed s line).2 := by
  induction line using Bytes.induct_units e.codeUnit_pos generalizing s with
  | short line hlt =>
    obtain rfl : line = [] := List.length_eq_zero_iff.mp (Nat.eq_zero_of_dvd_of_lt hl hlt)
    exact hs
  | unit u rest hu ih =>
    rw [List.length_append, hu, Nat.dvd_add_right (Nat.dvd_refl _)] at hl
    rw [feed_append]
    exact ih (h.unit s u hs hu) hl

/-- Without a newline among the code units there is none in the text. -/
theorem notMem_read (h : a.LineWise e between) (hs : between s) (hn : e.newline ∉ e.units data) :
    '\n' ∉ a.read s data := by
  induction data using Bytes.induct_units e.codeUnit_pos generalizing s with
  | short data hlt =>
    refine h.part s data hs (Nat.le_of_lt hlt) ?_
    rintro rfl
    exact absurd e.length_newline (Nat.ne_of_lt hlt)
  | unit u rest hu ih =>
    rw [Encoding.units, Bytes.units_unit e.codeUnit_pos hu] at hn
    obtain ⟨hne, hrest⟩ := List.ne_and_not_mem_of_not_mem_cons hn
    rw [read_append]
    refine List.not_mem_append (fun hm => ?_) (ih (h.unit s u hs hu) hrest)
    exact h.part s u hs (Nat.le_of_eq hu) hne.symm (List.mem_append_left _ hm)

/-- A line and what is behind its newline are decoded apart. -/
theorem run_line (h : a.LineWise e between) (hl : e.IsLine line) (rest : Bytes) :
    a.run (line ++ (e.newline ++ rest)) = a.run line ++ '\n' :: a.run rest := by
  have hb := h.between_feed h.start hl.dvd
  rw [run_eq, read_append, read_append, h.newline _ hb, ← run_eq, run_eq a line, read]
  simp only [List.append_assoc, List.singleton_append]

theorem run_nil (h : a.LineWise e between) : a.run [] = [] := by
  rw [run_eq]
  exact h.empty

/-- The last code unit, or part of one, completes the last character of the text. -/
theorem getLast?_run (h : a.LineWise e between) {init part : Bytes}
    (hi : e.codeUnit ∣ init.length) (hp : part ≠ []) (hl : part.length ≤ e.codeUnit) :
    ∃ c, (a.run (init ++ part)).getLast? = some c ∧ (part ≠ e.carriageReturn → c ≠ '\r') := by
  obtain ⟨c, hc, hne⟩ := h.last _ part (h.between_feed h.start hi) hp hl
  refine ⟨c, ?_, hne⟩
  rw [run_eq, read_append, List.getLast?_append, hc]
  rfl

theorem run_eq_nil_iff (h : a.LineWise e between) (data : Bytes) : a.run data = [] ↔ data = [] := by
  refine ⟨fun hr => ?_, fun hd => hd ▸ h.run_nil⟩
  by_contra hd
  obtain ⟨init, part, rfl, hi, hp, hl⟩ := Bytes.exists_last_unit e.codeUnit_pos hd
  obtain ⟨c, hc, -⟩ := h.getLast?_run hi hp hl
  rw [hr] at hc
  cases hc

/-- A carriage return at the end of a line is one at the end of its text. -/
theorem run_trim (h : a.LineWise e between) (hl : e.codeUnit ∣ line.length) :
    a.run (e.trim line) = Segments.trim '\r' (a.run line) := by
  rcases Encoding.eq_nil_or_concat_unit hl with rfl | ⟨init, unit, hi, hlen, rfl, hu⟩
  · rw [e.trim_nil, h.run_nil]
    rfl
  · rw [Encoding.trim_concat hu]
    by_cases hc : unit = e.carriageReturn
    · have hread : a.run (init ++ unit) = a.run init ++ ['\r'] := by
        rw [hc, run_eq, read_append, read, h.carriageReturn _ (h.between_feed h.start hi), h.empty,
          List.append_nil, ← List.append_assoc, run_eq, read]
      rw [if_pos hc, hread, Segments.trim_concat, if_pos rfl]
    · have hne : unit ≠ [] := by
        rintro rfl
        exact absurd hlen (Nat.ne_of_lt e.codeUnit_pos)
      obtain ⟨c, hlast, hcr⟩ := h.getLast?_run hi hne (Nat.le_of_eq hlen)
      rw [if_neg hc, Segments.trim, hlast, if_neg (by simpa using hcr hc)]

/-- **Decoding the lines of the bytes gives the lines of the text.** -/
theorem map_run_lines (h : a.LineWise e between) (data : Bytes) :
    ((e.whole data).map e.trim ++ [e.tail data]).map a.run = lines (a.run data) := by
  induction data using Encoding.induct e with
  | unended data hn =>
    have htext : '\n' ∉ a.run data := by
      rw [run_eq]
      exact h.notMem_read h.start hn
    rw [Encoding.whole_of_notMem hn, Encoding.tail_of_notMem hn, lines,
      Segments.whole_of_notMem htext, Segments.tail_of_notMem htext]
    rfl
  | line l rest hl ih =>
    have htext : '\n' ∉ a.run l := by
      rw [run_eq]
      exact h.notMem_read h.start hl.notMem
    rw [Encoding.whole_line hl, Encoding.tail_line hl, h.run_line hl, lines,
      Segments.whole_segment htext, Segments.tail_segment htext, List.map_cons, List.map_cons,
      List.cons_append, List.cons_append, List.map_cons, ih, h.run_trim hl.dvd, lines]

end LineWise

/-- What it takes to decode line by line if bytes are code units. -/
structure ByteWise (a : Automaton σ) (between : σ → Prop) : Prop where
  start : between a.start
  empty : a.flush a.start = []
  newline : ∀ s, between s → a.step s 0x0A = (a.flush s ++ ['\n'], a.start)
  carriageReturn : ∀ s, between s → a.step s 0x0D = (a.flush s ++ ['\r'], a.start)
  byte : ∀ s b, between s → between (a.step s b).2
  flush : ∀ s, between s → '\n' ∉ a.flush s
  step : ∀ s b, between s → b ≠ 0x0A → '\n' ∉ (a.step s b).1
  last : ∀ s b, between s → ∃ c, (a.read s [b]).getLast? = some c ∧ (b ≠ 0x0D → c ≠ '\r')

theorem ByteWise.lineWise (h : a.ByteWise between) (he : e.codeUnit = 1) :
    a.LineWise e between := by
  have hnl : e.newline = [0x0A] := Encoding.ascii_of_codeUnit he _
  have hcr : e.carriageReturn = [0x0D] := Encoding.ascii_of_codeUnit he _
  have hcases (part : Bytes) (hp : part.length ≤ e.codeUnit) : part = [] ∨ ∃ b, part = [b] := by
    rw [he] at hp
    match part, hp with
    | [], _ => exact .inl rfl
    | [b], _ => exact .inr ⟨b, rfl⟩
  refine ⟨h.start, h.empty, ?_, ?_, ?_, ?_, ?_⟩
  · intro s hs
    rw [hnl, feed_singleton, h.newline s hs]
  · intro s hs
    rw [hcr, feed_singleton, h.carriageReturn s hs]
  · intro s unit hs hu
    rcases hcases unit (Nat.le_of_eq hu) with rfl | ⟨b, rfl⟩
    · exact hs
    · rw [feed_singleton]
      exact h.byte s b hs
  · intro s part hs hp hne
    rcases hcases part hp with rfl | ⟨b, rfl⟩
    · exact h.flush s hs
    · rw [read, feed_singleton]
      refine List.not_mem_append (h.step s b hs fun hb => hne ?_) (h.flush _ (h.byte s b hs))
      rw [hnl, hb]
  · intro s part hs hne hp
    rcases hcases part hp with rfl | ⟨b, rfl⟩
    · exact absurd rfl hne
    · obtain ⟨c, hc, hb⟩ := h.last s b hs
      exact ⟨c, hc, fun hne => hb fun hb => hne (by rw [hcr, hb])⟩

end Automaton

/-- The character set decodes line by line. -/
def Charset.LineWise (set : Charset) : Prop :=
  ∃ (σ : Type) (a : Automaton σ) (between : σ → Prop),
    a.LineWise (.charset set) between ∧ ∀ bytes, set.chars bytes = a.run bytes

end Text

end LogFollow
