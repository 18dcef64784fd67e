import LogFollow.Proofs.FileSystem
import LogFollow.Proofs.Reader.File

/-!
# Entries that are too large, over many readings

A reading forgets, when it ends, that it stands inside an oversized entry: its offset is behind the part
that filled the buffer, and the next reading takes what follows for an entry. `Lines.delivered` says
what readings of a file that does not change deliver in all, and `Lines.spill` which part of it is no
entry of the file. Only the last line or the tail of a file can spill, and only if what is behind its
last full buffer is small enough.
-/
namespace LogFollow

namespace Lines

/-- An entry as it is delivered: not at all if it is empty or too large. -/
def kept (m : Nat) (entry : Bytes) : List Bytes :=
  if entry ≠ [] ∧ entry.length ≤ m then [entry] else []

/-- What is behind the last full buffer of an oversized entry. -/
def fragment (m : Nat) (entry : Bytes) : Bytes :=
  entry.drop (entry.length / (m + 2) * (m + 2))

/-- What readings deliver that is no entry of the file, but the end of one that is too large: of the
tail, or of the last line if no item follows it. A reading that flushes passes over the line together
with the tail behind it. -/
def spill (m : Nat) (flush : Bool) (data : Bytes) : List Bytes :=
  if m + 2 ≤ (tail data).length then kept m (fragment m (tail data))
  else
    match (whole data).getLast? with
    | none => []
    | some line =>
      if m + 2 ≤ line.length ∧ (flush = true → tail data = []) then
        kept m (trim (fragment m line))
      else []

/-- What readings deliver of a file that does not change. -/
def delivered (m : Nat) (flush : Bool) (data : Bytes) : List Bytes :=
  (whole data).flatMap (fun line => kept m (trim line)) ++ spill m flush data ++ kept m (tail data)

/-- What one reading delivers of the bytes behind the offset, and how many of them it uses up. `quiet`
tells that the file has not grown since the last reading. -/
def taken (m : Nat) (flush quiet : Bool) (data : Bytes) : List Bytes × Nat :=
  let found := items m 0 data
  match remainder m data with
  | none => (texts found, stop 0 found)
  | some rest =>
    if flush || (found.isEmpty && quiet) then (texts found ++ kept m rest, data.length)
    else (texts found, stop 0 found)

/-- What a number of readings deliver, one after another. -/
def takenBy (m : Nat) (flush : Bool) : Nat → Bool → Bytes → List Bytes
  | 0, _, _ => []
  | n + 1, quiet, data =>
    (taken m flush quiet data).1 ++ takenBy m flush n true (data.drop (taken m flush quiet data).2)

variable {m : Nat} {flush quiet : Bool} {line rest data : Bytes}

theorem kept_nil : kept m [] = [] := if_neg fun h => h.1 rfl

theorem kept_of_lt (h : m < data.length) : kept m data = [] :=
  if_neg fun hk => absurd hk.2 (by omega)

theorem fragment_of_lt (h : line.length < m + 2) : fragment m line = line := by
  rw [fragment, Nat.div_eq_of_lt h, Nat.zero_mul, List.drop_zero]

/-- What is behind a full buffer has the same fragment. -/
theorem fragment_drop (h : m + 2 ≤ line.length) :
    fragment m (line.drop (m + 2)) = fragment m line := by
  rw [fragment, fragment, List.length_drop, List.drop_drop]
  congr 1
  have hd := Nat.div_eq_sub_div (by omega : 0 < m + 2) h
  rw [hd, Nat.add_mul, Nat.one_mul, Nat.add_comm]

theorem text_report (m place : Nat) (line : Bytes) :
    text (report m place line).1 = kept m (trim line) := by
  unfold report
  by_cases ht : (trim line).length ≤ m
  · rw [if_pos ht, text, kept]
    by_cases he : trim line = [] <;> simp [he, ht]
  · rw [if_neg ht, kept_of_lt (by omega)]
    split <;> rfl

theorem items_eq_nil_iff (m place : Nat) (data : Bytes) :
    items m place data = [] ↔ newline ∉ data ∧ data.length < m + 2 := by
  rcases notMem_or_line data with h | ⟨line, rest, hl, rfl⟩
  · rw [items_of_notMem h]
    constructor
    · intro hi
      split at hi
      · cases hi
      · exact ⟨h, by omega⟩
    · rintro ⟨-, hlt⟩
      exact if_neg (by omega)
  · rw [items_line hl]
    simp

/-! ## All that is delivered -/

theorem delivered_of_notMem (h : newline ∉ data) :
    delivered m flush data = if m + 2 ≤ data.length then kept m (fragment m data)
      else kept m data := by
  rw [delivered, spill, whole_of_notMem h, tail_of_notMem h]
  split
  · rw [kept_of_lt (by omega : m < data.length)]
    simp
  · simp

theorem delivered_line (hl : newline ∉ line) (hi : items m 0 rest ≠ []) :
    delivered m flush (line ++ newline :: rest) = kept m (trim line) ++ delivered m flush rest := by
  have hs : spill m flush (line ++ newline :: rest) = spill m flush rest := by
    rw [spill, spill, whole_line hl, tail_line hl]
    by_cases ht : m + 2 ≤ (tail rest).length
    · rw [if_pos ht, if_pos ht]
    · have hw : whole rest ≠ [] := by
        rw [ne_eq, whole_eq_nil_iff]
        intro hn
        rw [tail_of_notMem hn] at ht
        exact hi ((items_eq_nil_iff m 0 rest).mpr ⟨hn, by omega⟩)
      rw [List.getLast?_cons_of_ne_nil hw]
  rw [delivered, hs, whole_line hl, tail_line hl, List.flatMap_cons, delivered]
  simp only [List.append_assoc]

theorem delivered_last (hl : newline ∉ line) (hr : newline ∉ rest) (hs : rest.length < m + 2) :
    delivered m flush (line ++ newline :: rest) = kept m (trim line) ++
      (if m + 2 ≤ line.length ∧ (flush = true → rest = []) then kept m (trim (fragment m line))
        else []) ++ kept m rest := by
  rw [delivered, spill, whole_line hl, tail_line hl, whole_of_notMem hr, tail_of_notMem hr,
    if_neg (by omega)]
  simp

theorem flatMap_kept (m : Nat) (entries : List Bytes) :
    entries.flatMap (kept m) = (entries.filter (·.length ≤ m)).filter (· ≠ []) := by
  induction entries with
  | nil => rfl
  | cons entry entries ih =>
    rw [List.flatMap_cons, ih, kept]
    by_cases hl : entry.length ≤ m <;> by_cases he : entry = [] <;> simp [hl, he]

/-- Without a spill the entries are delivered that are not empty and small enough. -/
theorem flatMap_kept_entries (m : Nat) (data : Bytes) :
    (entries data).flatMap (kept m) =
      (whole data).flatMap (fun line => kept m (trim line)) ++ kept m (tail data) := by
  rw [entries, List.flatMap_append, List.flatMap_map]
  congr 1
  split
  · next h => rw [h, kept_nil]; rfl
  · exact List.flatMap_singleton _ _

theorem ne_nil_of_mem_kept {entry token : Bytes} (h : token ∈ kept m entry) : token ≠ [] := by
  unfold kept at h
  split at h
  · next hk => rw [List.mem_singleton.mp h]; exact hk.1
  · exact absurd h List.not_mem_nil

theorem filter_delivered (m : Nat) (flush : Bool) (data : Bytes) :
    (delivered m flush data).filter (· ≠ []) = delivered m flush data := by
  rw [List.filter_eq_self]
  intro token h
  rw [delivered, List.mem_append, List.mem_append, List.mem_flatMap] at h
  rw [decide_eq_true_eq]
  rcases h with (⟨line, -, h⟩ | h) | h
  · exact ne_nil_of_mem_kept h
  · unfold spill at h
    split at h
    · exact ne_nil_of_mem_kept h
    · split at h
      · exact absurd h List.not_mem_nil
      · split at h
        · exact ne_nil_of_mem_kept h
        · exact absurd h List.not_mem_nil
  · exact ne_nil_of_mem_kept h

/-! ## One reading -/

theorem items_shift (m d place : Nat) (data : Bytes) :
    items m (d + place) data = (items m place data).map (Prod.map id (d + ·)) := by
  unfold items
  generalize whole data = lines
  induction lines generalizing place with
  | nil =>
    simp only [reports]
    split
    · simp [Nat.add_assoc]
    · rfl
  | cons line lines ih =>
    have hp : d + place + line.length + 1 = d + (place + line.length + 1) := by omega
    have hr : report m (d + place) line = Prod.map id (d + ·) (report m place line) := by
      unfold report
      split
      · simp [Nat.add_assoc]
      · split <;> simp [Nat.add_assoc]
    rw [reports, reports, List.map_cons, hr, hp, ih]

theorem texts_shift (d : Nat) (found : List (Scanned × Nat)) :
    texts (found.map (Prod.map id (d + ·))) = texts found := by
  unfold texts
  rw [List.flatMap_map]
  rfl

theorem stop_shift (d place : Nat) (found : List (Scanned × Nat)) :
    stop (d + place) (found.map (Prod.map id (d + ·))) = d + stop place found := by
  induction found generalizing place with
  | nil => rfl
  | cons item found ih => exact ih item.2

theorem stop_of_ne_nil {found : List (Scanned × Nat)} (h : found ≠ []) (place place' : Nat) :
    stop place found = stop place' found := by
  cases found with
  | nil => exact absurd rfl h
  | cons item found => rfl

/-- A line that an item follows is delivered, or not, by itself. -/
theorem taken_line (hl : newline ∉ line) (hi : items m 0 rest ≠ []) :
    taken m flush quiet (line ++ newline :: rest) =
      (kept m (trim line) ++ (taken m flush quiet rest).1,
        line.length + 1 + (taken m flush quiet rest).2) := by
  have hitems : items m 0 (line ++ newline :: rest) =
      report m 0 line :: (items m 0 rest).map (Prod.map id (line.length + 1 + ·)) := by
    rw [items_line hl, ← items_shift, Nat.zero_add, Nat.add_zero]
  have hstop : stop 0 (items m 0 (line ++ newline :: rest)) =
      line.length + 1 + stop 0 (items m 0 rest) := by
    rw [hitems, ← stop_shift]
    exact stop_of_ne_nil (fun h => hi (List.map_eq_nil_iff.mp h)) _ _
  have htexts : texts (items m 0 (line ++ newline :: rest)) =
      kept m (trim line) ++ texts (items m 0 rest) := by
    rw [hitems, ← text_report m 0, ← texts_shift (line.length + 1) (items m 0 rest)]
    rfl
  have hempty : (items m 0 rest).isEmpty = false := by simpa using hi
  have hempty' : (items m 0 (line ++ newline :: rest)).isEmpty = false := by rw [hitems]; rfl
  unfold taken
  simp only [remainder_line hl, hstop, htexts, hempty, hempty']
  cases remainder m rest with
  | none => rfl
  | some left =>
    cases flush with
    | true => simp [Nat.add_assoc, Nat.add_comm 1]
    | false => simp

theorem remainder_of_short (hr : newline ∉ data) (hs : data.length < m + 2) :
    remainder m data = if data = [] then none else some data := by
  rw [remainder, tail_of_notMem hr]
  by_cases hd : data = [] <;> simp [hd]
  omega

/-- The last line, and a tail behind it that does not fill the buffer. A reading that does not flush
leaves the tail. -/
theorem taken_last (hl : newline ∉ line) (hr : newline ∉ rest) (hs : rest.length < m + 2) :
    taken m flush quiet (line ++ newline :: rest) =
      if rest ≠ [] ∧ flush = true then
        (kept m (trim line) ++ kept m rest, line.length + 1 + rest.length)
      else (kept m (trim line), min (line.length + 1) (m + 2)) := by
  have hi : items m (0 + line.length + 1) rest = [] := (items_eq_nil_iff m _ rest).mpr ⟨hr, hs⟩
  have hp : (report m 0 line).2 = min (line.length + 1) (m + 2) := by
    by_cases hf : line.length + 1 ≤ m + 2
    · rw [report_of_fits hf, Nat.zero_add, Nat.min_eq_left hf]
    · rw [report_of_overflows (by omega), Nat.zero_add, Nat.min_eq_right (by omega)]
  unfold taken
  rw [items_line hl, hi, remainder_line hl, remainder_of_short hr hs]
  by_cases hrest : rest = []
  · simp [hrest, texts, text_report, stop, hp]
  · cases flush <;> simp [hrest, texts, text_report, stop, hp, Nat.add_assoc, Nat.add_comm 1]

/-- Bytes without a newline. -/
theorem taken_of_notMem (h : newline ∉ data) :
    taken m flush quiet data =
      if m + 2 ≤ data.length then ([], m + 2)
      else if flush = true ∨ quiet = true then (kept m data, data.length)
      else ([], 0) := by
  unfold taken
  rw [items_of_notMem h]
  by_cases hm : m + 2 ≤ data.length
  · have hrem : remainder m data = none := by
      rw [remainder, tail_of_notMem h, if_pos (.inr hm)]
    rw [hrem, if_pos hm, if_pos hm, Nat.zero_add]
    rfl
  · rw [remainder_of_short h (by omega), if_neg hm, if_neg hm]
    by_cases hd : data = []
    · simp [hd, kept_nil, texts, stop]
    · cases flush <;> cases quiet <;> simp [hd, texts, stop]

theorem kept_trim_of_le (h : m + 2 ≤ line.length) : kept m (trim line) = [] := by
  have ht := length_le_length_trim line
  exact kept_of_lt (by omega)

theorem delivered_nil : delivered m flush [] = [] := by
  rw [delivered_of_notMem List.not_mem_nil, if_neg (by simp), kept_nil]

/-- Behind a full buffer the line goes on as if it began there, and has the same fragment. -/
theorem delivered_last_drop (hl : newline ∉ line) (hr : newline ∉ rest)
    (hs : rest.length < m + 2) (hm : m + 2 ≤ line.length) (hc : flush = true → rest = []) :
    delivered m flush ((line ++ newline :: rest).drop (m + 2)) =
      delivered m flush (line ++ newline :: rest) := by
  have hl' : newline ∉ line.drop (m + 2) := fun hn => hl (List.mem_of_mem_drop hn)
  rw [List.drop_append_of_le_length hm, delivered_last hl' hr hs, delivered_last hl hr hs,
    fragment_drop hm, kept_trim_of_le hm]
  by_cases hm' : m + 2 ≤ (line.drop (m + 2)).length
  · rw [if_pos ⟨hm', hc⟩, if_pos ⟨hm, hc⟩, kept_trim_of_le hm']
  · rw [if_neg (fun h => hm' h.1), if_pos ⟨hm, hc⟩, ← fragment_drop hm, fragment_of_lt (by omega),
      List.append_nil, List.nil_append]

/-- **Nothing is lost or added from one reading to the next.** -/
theorem taken_append_delivered (m : Nat) (flush quiet : Bool) (data : Bytes) :
    (taken m flush quiet data).1 ++
      delivered m flush (data.drop (taken m flush quiet data).2) = delivered m flush data := by
  induction data using induct with
  | unended data h =>
    rw [taken_of_notMem h, delivered_of_notMem h]
    by_cases hm : m + 2 ≤ data.length
    · have hd : newline ∉ data.drop (m + 2) := fun hn => h (List.mem_of_mem_drop hn)
      rw [if_pos hm, if_pos hm, List.nil_append, delivered_of_notMem hd, fragment_drop hm]
      split
      · rfl
      · next hlt => rw [← fragment_drop hm, fragment_of_lt (by omega)]
    · rw [if_neg hm, if_neg hm]
      split
      · rw [List.drop_length, delivered_of_notMem List.not_mem_nil, if_neg (by simp), kept_nil,
          List.append_nil]
      · rw [List.nil_append, List.drop_zero, delivered_of_notMem h, if_neg hm]
  | line line rest hl ih =>
    by_cases hi : items m 0 rest = []
    · obtain ⟨hr, hs⟩ := (items_eq_nil_iff m 0 rest).mp hi
      rw [taken_last hl hr hs]
      by_cases hc : rest ≠ [] ∧ flush = true
      · have hlen : line.length + 1 + rest.length = (line ++ newline :: rest).length := by
          rw [List.length_append, List.length_cons]
          omega
        rw [if_pos hc, hlen, List.drop_length, delivered_nil, delivered_last hl hr hs,
          if_neg (fun h => hc.1 (h.2 hc.2))]
        simp
      · have hc' : flush = true → rest = [] := fun hf => Decidable.by_contra fun h => hc ⟨h, hf⟩
        rw [if_neg hc]
        by_cases hm : m + 2 ≤ line.length
        · rw [Nat.min_eq_right (by omega), kept_trim_of_le hm, List.nil_append,
            delivered_last_drop hl hr hs hm hc']
        · have hd : (line ++ newline :: rest).drop (line.length + 1) = rest := by simp
          rw [Nat.min_eq_left (by omega), hd, delivered_last hl hr hs, delivered_of_notMem hr,
            if_neg (by omega), if_neg (fun h => hm h.1), List.append_nil]
    · have hd : (line ++ newline :: rest).drop
          (line.length + 1 + (taken m flush quiet rest).2) =
          rest.drop (taken m flush quiet rest).2 := by
        rw [← List.drop_drop]
        simp
      rw [taken_line hl hi, delivered_line hl hi, hd, List.append_assoc, ih]

/-- A reading of a file that has not grown uses up something, if there is anything. -/
theorem taken_pos (m : Nat) (flush : Bool) (data : Bytes) (h : data ≠ []) :
    0 < (taken m flush true data).2 := by
  rcases notMem_or_line data with hn | ⟨line, rest, hl, rfl⟩
  · rw [taken_of_notMem hn]
    have hlen := List.length_pos_iff.mpr h
    split
    · exact Nat.succ_pos _
    · rw [if_pos (.inr rfl)]
      exact hlen
  · by_cases hi : items m 0 rest = []
    · obtain ⟨hr, hs⟩ := (items_eq_nil_iff m 0 rest).mp hi
      rw [taken_last hl hr hs]
      split <;> simp only <;> omega
    · rw [taken_line hl hi]
      simp only
      omega

theorem taken_le (m : Nat) (flush quiet : Bool) (data : Bytes) :
    (taken m flush quiet data).2 ≤ data.length := by
  induction data using induct with
  | unended data h =>
    rw [taken_of_notMem h]
    split
    · assumption
    · split <;> simp
  | line line rest hl ih =>
    rw [List.length_append, List.length_cons]
    by_cases hi : items m 0 rest = []
    · obtain ⟨hr, hs⟩ := (items_eq_nil_iff m 0 rest).mp hi
      rw [taken_last hl hr hs]
      split <;> simp only <;> omega
    · rw [taken_line hl hi]
      simp only
      omega

theorem takenBy_prefix (m : Nat) (flush : Bool) (n : Nat) (quiet : Bool) (data : Bytes) :
    takenBy m flush n quiet data <+: delivered m flush data := by
  induction n generalizing quiet data with
  | zero => exact List.nil_prefix
  | succ n ih =>
    rw [takenBy, ← taken_append_delivered m flush quiet data]
    exact (List.prefix_append_right_inj _).mpr (ih true _)

/-- After enough readings all is delivered. -/
theorem exists_takenBy_eq (m : Nat) (flush quiet : Bool) (data : Bytes) :
    ∃ n, takenBy m flush n quiet data = delivered m flush data := by
  -- a first reading may use up nothing; each of those behind it makes the rest shorter
  have hquiet : ∀ data, ∃ n, takenBy m flush n true data = delivered m flush data := by
    intro data
    induction hl : data.length using Nat.strong_induction_on generalizing data with
    | h k ih =>
      by_cases hd : data = []
      · exact ⟨0, by rw [hd, delivered_nil]; rfl⟩
      · have hpos := taken_pos m flush data hd
        have hlen := List.length_pos_iff.mpr hd
        obtain ⟨n, hn⟩ := ih _ (by rw [List.length_drop]; omega)
          (data.drop (taken m flush true data).2) rfl
        exact ⟨n + 1, by rw [takenBy, hn, taken_append_delivered]⟩
  obtain ⟨n, hn⟩ := hquiet (data.drop (taken m flush quiet data).2)
  exact ⟨n + 1, by rw [takenBy, hn, taken_append_delivered]⟩

end Lines

/-! ## Readings of a file that does not change -/

namespace Session

/-- What is left is delivered like an entry, and the reader stands behind it. -/
theorem deliverRest_of_some {settings : ReadSettings} {scanner : Scanner} {s : Session}
    {rest : Bytes} (h : scanner.takeRemaining.1 = some rest) (hh : settings.header = none)
    (hd : s.decoder.encoding = settings.encoding) (hw : s.sink.Willing) :
    ∃ t, s.deliverRest settings scanner = (.ok (), scanner.takeRemaining.2, t) ∧
      Accepts settings s (Lines.kept settings.maxLogSize rest)
        scanner.takeRemaining.2.position t := by
  unfold deliverRest
  generalize scanner.takeRemaining = r at h ⊢
  obtain ⟨left, scanner⟩ := r
  obtain rfl : left = some rest := h
  simp only
  split
  · next hlt =>
    rw [Lines.kept_of_lt hlt]
    exact ⟨_, rfl, ((Passes.refl settings s []).advance _).accepts hh⟩
  · next hle =>
    have htext : Lines.text (.token rest) = Lines.kept settings.maxLogSize rest := by
      rw [Lines.text, Lines.kept]
      by_cases hr : rest = [] <;> simp [hr]
      omega
    have he := emits hd rest
    generalize s.emit settings rest = e at he ⊢
    cases he with
    | passed ha =>
      rw [htext] at ha
      exact ⟨_, rfl, (ha.advance _).accepts hh⟩
    | rejected e ha hstops => exact absurd hstops (ha.not_stops hw)

end Session

namespace Reader

variable {settings : ReadSettings}

/-- What a reading takes from a file for a willing sink. -/
structure Takes (settings : ReadSettings) (r : Reader) (sink : Sink) (size : Nat)
    (taken : List Bytes × Nat) (reading : Reading) : Prop where
  reader : ∃ fingerprint, reading.reader =
    { r with offset := r.offset + taken.2, lastSeenSize := size, fingerprint }
  accepted : reading.sink.accepted = sink.accepted ++ taken.1.map (Session.event settings r)
  willing : reading.sink.Willing

theorem takes_of_accepts {r : Reader} {sink : Sink} {size : Nat} {texts : List Bytes}
    {used : Nat} {s : Session} (hw : sink.Willing)
    (h : Session.Accepts settings (r.session settings sink size) texts (r.offset + used) s)
    (scanner : Scanner) (outcome : Except Error ReadOutcome) :
    Takes settings r sink size (texts, used) (s.close scanner outcome) := by
  refine ⟨⟨scanner.source.fingerprint, ?_⟩, h.accepted, h.willing hw⟩
  rw [Session.close, h.reader]
  rfl

theorem takes_readOpened (hp : settings.Plain) {r : Reader} {sink : Sink} (hw : sink.Willing)
    (content : Bytes) (flush : Bool) :
    Takes settings r sink content.length
      (Lines.taken settings.maxLogSize flush (content.length == r.lastSeenSize)
        (content.drop r.offset))
      (r.readOpened settings sink (.file content) flush) := by
  by_cases hi : content.length = r.offset ∧ content.length = r.lastSeenSize
  · have hidle : r.readOpened settings sink (.file content) flush = ⟨.ok ⟨0, true⟩, r, sink⟩ :=
      if_pos hi
    have hd : content.drop r.offset = [] := List.drop_of_length_le (by omega)
    have hq : (content.length == r.lastSeenSize) = true := by simp [hi.2]
    rw [hidle, hd, hq, Lines.taken_of_notMem List.not_mem_nil, if_neg (by simp), if_pos (.inr rfl),
      Lines.kept_nil]
    refine ⟨⟨r.fingerprint, ?_⟩, (List.append_nil _).symm, hw⟩
    rw [hi.2]
    rfl
  · obtain ⟨scanner, hfin, -, hread⟩ := readOpened_file hp.lined r sink content flush hi
    have hend := (runs_ran settings r sink content).willing hw
    obtain ⟨done, rest, hitems, hpasses, -, hall⟩ := (runs_ran settings r sink content).passes
    have ha := hpasses.accepts hp.header
    rw [hall _ hend, List.append_nil] at hitems
    obtain ⟨hleft, hpos⟩ := hfin _ hend
    rw [← hitems] at ha
    have hshift : r.itemsOf settings content =
        (Lines.items settings.maxLogSize 0 (content.drop r.offset)).map
          (Prod.map id (r.offset + ·)) := Lines.items_shift settings.maxLogSize r.offset 0 _
    have hempty : (r.itemsOf settings content).isEmpty =
        (Lines.items settings.maxLogSize 0 (content.drop r.offset)).isEmpty := by
      rw [hshift, List.isEmpty_map]
    have hstop : Lines.stop (r.session settings sink content.length).reader.offset
        (r.itemsOf settings content) =
        r.offset + Lines.stop 0 (Lines.items settings.maxLogSize 0 (content.drop r.offset)) := by
      rw [hshift, ← Lines.stop_shift]
      rfl
    rw [hstop, hshift, Lines.texts_shift] at ha
    rw [hread, Lines.taken]
    generalize r.ran settings sink content = result at ha hend ⊢
    obtain ⟨ending, s⟩ := result
    obtain rfl : ending = _ := hend
    cases hrem : Lines.remainder settings.maxLogSize (content.drop r.offset) with
    | none =>
      obtain ⟨u, outcome, hclose, -⟩ := conclude_of_none settings (_, s)
        (fun _ _ => hleft.trans hrem) content.length
        (fun framed => flush || (!framed && content.length == r.lastSeenSize))
      rw [hclose]
      exact takes_of_accepts hw ha u outcome
    | some left =>
      rw [conclude]
      simp only [Bool.false_or, Bool.not_not, hempty]
      split
      · obtain ⟨t, hrest, ht⟩ := Session.deliverRest_of_some (hleft.trans hrem) hp.header
          ha.decoder (ha.willing hw)
        rw [hrest]
        rw [hpos] at ht
        exact takes_of_accepts hw (ha.trans ht) _ _
      · exact takes_of_accepts hw ha scanner _

/-- The reader and the sink after a number of readings, each to the end of the file. -/
def readTimes (settings : ReadSettings) (fs : FileSystem) : Nat → Reader → Sink → Reader × Sink
  | 0, r, sink => (r, sink)
  | n + 1, r, sink =>
    let reading := r.readToEnd settings fs sink
    readTimes settings fs n reading.reader reading.sink

/-- Readings of a file that does not change deliver what the bytes behind the offset say. -/
theorem accepted_readTimes (hp : settings.Plain) {fs : FileSystem} {content : Bytes} (n : Nat)
    {r : Reader} {sink : Sink} (ho : fs.openPath r.path = .ok (.file content))
    (hl : r.offset ≤ content.length) (hw : sink.Willing) :
    (readTimes settings fs n r sink).2.accepted = sink.accepted ++
      (Lines.takenBy settings.maxLogSize settings.deleteAfterRead n
        (content.length == r.lastSeenSize) (content.drop r.offset)).map
          (Session.event settings r) := by
  induction n generalizing r sink with
  | zero => exact (List.append_nil _).symm
  | succ n ih =>
    have htakes := takes_readOpened hp hw content settings.deleteAfterRead (r := r)
    rw [← read_of_openPath ho hl, ← readToEnd] at htakes
    obtain ⟨⟨fingerprint, hreader⟩, haccepted, hwilling⟩ := htakes
    have hle := Lines.taken_le settings.maxLogSize settings.deleteAfterRead
      (content.length == r.lastSeenSize) (content.drop r.offset)
    rw [List.length_drop] at hle
    have hnext := ih (r := (r.readToEnd settings fs sink).reader) (by rw [hreader]; exact ho)
      (by rw [hreader]; simp only; omega) hwilling
    rw [readTimes, hnext, hreader, haccepted, Lines.takenBy, List.map_append, List.append_assoc,
      List.drop_drop, beq_self_eq_true]
    rfl

/-- **Only a spill is no entry of the file.** However often a file that does not change is read from its
beginning, what is delivered are entries of it that are small enough, in order and each at most once,
just if the file has no spill. -/
theorem delivers_entries_iff (hp : settings.Plain) (he : settings.encoding = .charset .utf8)
    {fs : FileSystem} {path : String} {content : Bytes}
    (ho : fs.openPath path = .ok (.file content)) (fingerprint : Fingerprint) :
    (∀ n, ((readTimes settings fs n (.new settings fs path fingerprint 0) .healthy).2.accepted.map
        (·.body)).Sublist
      (((Lines.entries content).filter (·.length ≤ settings.maxLogSize)).map
        settings.encoding.body)) ↔
      Lines.spill settings.maxLogSize settings.deleteAfterRead content = [] := by
  have hbodies : ∀ n, (readTimes settings fs n (.new settings fs path fingerprint 0)
      .healthy).2.accepted.map (·.body) =
      (Lines.takenBy settings.maxLogSize settings.deleteAfterRead n (content.length == 0)
        content).map settings.encoding.body := by
    intro n
    rw [accepted_readTimes hp n (r := .new settings fs path fingerprint 0) ho (Nat.zero_le _)
      Sink.healthy_willing]
    change (([] : List Event) ++ _).map _ = _
    rw [List.nil_append, List.map_map]
    rfl
  simp only [hbodies]
  constructor
  · intro h
    obtain ⟨n, hn⟩ := Lines.exists_takenBy_eq settings.maxLogSize settings.deleteAfterRead
      (content.length == 0) content
    have hs := h n
    rw [hn, he] at hs
    -- empty entries have no event: they are left out on both sides, and what stays is counted
    have hlen := (hs.filter fun body => body ≠ Encoding.body (.charset .utf8) []).length_le
    have hempty : (fun body => decide (body ≠ Encoding.body (.charset .utf8) [])) ∘
        Encoding.body (.charset .utf8) = fun token : Bytes => decide (token ≠ []) := by
      funext token
      simp [Encoding.body_utf8_eq_iff]
    rw [List.filter_map, List.filter_map, hempty, List.length_map, List.length_map,
      ← Lines.flatMap_kept, Lines.flatMap_kept_entries, Lines.filter_delivered, Lines.delivered,
      List.length_append, List.length_append, List.length_append] at hlen
    exact List.length_eq_zero_iff.mp (by omega)
  · intro h n
    refine List.Sublist.map _ ?_
    have hpre := (Lines.takenBy_prefix settings.maxLogSize settings.deleteAfterRead n
      (content.length == 0) content).sublist
    rw [Lines.delivered, h, List.append_nil, ← Lines.flatMap_kept_entries,
      Lines.flatMap_kept] at hpre
    exact hpre.trans List.filter_sublist

/-- Settings of files with lines of at most four bytes. -/
def fourByteLines : ReadSettings where
  fingerprintSize := 1000
  maxLogSize := 4
  encoding := .charset .utf8
  framing := Encoding.lines (.charset .utf8)
  header := none
  fileAttributes := ⟨true, false, false, false⟩
  deleteAfterRead := false

/-- A file system that holds one file. -/
def oneFile (content : Bytes) : FileSystem where
  home := ["work"]
  nodes := [(["work"], .directory), (["work", "a.log"], .file content)]

/-- The lines `abcdefg` and `h`, and the tail `i`. -/
def oversizedFirst : Bytes := [0x61, 0x62, 0x63, 0x64, 0x65, 0x66, 0x67, 0x0A, 0x68, 0x0A, 0x69]

/-- The line `abcdefghij`. -/
def oversizedLast : Bytes := [0x61, 0x62, 0x63, 0x64, 0x65, 0x66, 0x67, 0x68, 0x69, 0x6A, 0x0A]

/-- An oversized line that an item follows does no harm. -/
theorem delivers_entries_of_oversizedFirst :
    fourByteLines.Plain ∧ fourByteLines.encoding = .charset .utf8 ∧
      (oneFile oversizedFirst).openPath "a.log" = .ok (.file oversizedFirst) ∧
      ∀ n, ((readTimes fourByteLines (oneFile oversizedFirst) n
          (.new fourByteLines (oneFile oversizedFirst) "a.log" ⟨[]⟩ 0) .healthy).2.accepted.map
          (·.body)).Sublist
        (((Lines.entries oversizedFirst).filter (·.length ≤ 4)).map fourByteLines.encoding.body) := by
  have hp : fourByteLines.Plain := ⟨rfl, rfl, rfl, by decide⟩
  have ho : (oneFile oversizedFirst).openPath "a.log" = .ok (.file oversizedFirst) :=
    FileSystem.openPath_name FileSystem.isName_logs.1 rfl rfl
  exact ⟨hp, rfl, ho, (delivers_entries_iff hp rfl ho ⟨[]⟩).mpr (by decide)⟩

/-- At the end of a file it does: the second reading delivers `ghij`. -/
theorem delivers_fragment_of_oversizedLast :
    ¬ ((readTimes fourByteLines (oneFile oversizedLast) 2
        (.new fourByteLines (oneFile oversizedLast) "a.log" ⟨[]⟩ 0) .healthy).2.accepted.map
        (·.body)).Sublist
      (((Lines.entries oversizedLast).filter (·.length ≤ 4)).map
        fourByteLines.encoding.body) := by
  have hbodies : (readTimes fourByteLines (oneFile oversizedLast) 2
      (.new fourByteLines (oneFile oversizedLast) "a.log" ⟨[]⟩ 0) .healthy).2.accepted.map
      (·.body) = [.text "ghij"] := by
    have ho : (oneFile oversizedLast).openPath "a.log" = .ok (.file oversizedLast) :=
      FileSystem.openPath_name FileSystem.isName_logs.1 rfl rfl
    rw [accepted_readTimes ⟨rfl, rfl, rfl, by decide⟩ 2 ho (Nat.zero_le _) Sink.healthy_willing]
    decide +kernel
  rw [hbodies]
  exact fun h => absurd h.length_le (by decide)

end Reader

end LogFollow
