import LogFollow.Proofs.Reader.Delivery

/-!
# Reading a file of lines

A reading of a file whose lines all fit delivers the tokens behind the offset, up to the first that the
sink does not take. The reader then stands behind a line, or at the end of the file if it has taken the
tail as well. Where the file ends with a newline and has no header, the events are those of what the
lines hold, and the reader knows the file as well as before.
-/
namespace LogFollow

/-! ## Lines that fit -/

namespace Lines

/-- No stretch without a newline is longer than `m` bytes. -/
def Short (m : Nat) (data : Bytes) : Prop :=
  ∀ stretch, stretch <:+: data → newline ∉ stretch → stretch.length ≤ m

theorem Short.of_infix {m : Nat} {data part : Bytes} (h : Short m data) (hp : part <:+: data) :
    Short m part := fun stretch hs => h stretch (hs.trans hp)

theorem Short.drop {m : Nat} {data : Bytes} (h : Short m data) (n : Nat) : Short m (data.drop n) :=
  h.of_infix (List.drop_suffix n data).isInfix

theorem infix_of_mem_whole {data line : Bytes} (h : line ∈ whole data) : line <:+: data := by
  induction data using induct with
  | unended data hn =>
    rw [whole_of_notMem hn] at h
    exact absurd h List.not_mem_nil
  | line l rest hl ih =>
    rw [whole_line hl] at h
    rcases List.mem_cons.mp h with rfl | h
    · exact (List.prefix_append line _).isInfix
    · exact (ih h).trans ((List.suffix_cons newline rest).trans (List.suffix_append l _)).isInfix

theorem tail_suffix (data : Bytes) : tail data <:+ data := by
  rw [← flatMap_whole_append_tail data]
  conv_lhs => rw [flatMap_whole_append_tail]
  exact List.suffix_append _ _

/-- A stretch without a newline lies on one side of each newline. -/
theorem infix_line_iff {line stretch rest : Bytes} (hs : newline ∉ stretch)
    (h : stretch <:+: line ++ newline :: rest) : stretch <:+: line ∨ stretch <:+: rest := by
  obtain ⟨a, b, hab⟩ := h
  rw [List.append_assoc] at hab
  rcases List.append_eq_append_iff.mp hab with ⟨c, rfl, hc⟩ | ⟨c, rfl, hc⟩
  · rcases List.append_eq_append_iff.mp hc with ⟨d, rfl, -⟩ | ⟨d, rfl, hd⟩
    · exact .inl ⟨a, d, by rw [List.append_assoc]⟩
    · cases d with
      | nil => exact .inl ⟨a, [], by simp⟩
      | cons x d =>
        obtain ⟨rfl, -⟩ := List.cons.inj hd
        exact absurd (List.mem_append_right c List.mem_cons_self) hs
  · cases c with
    | nil =>
      cases stretch with
      | nil => exact .inl (List.nil_infix)
      | cons x stretch =>
        obtain ⟨rfl, -⟩ := List.cons.inj hc
        exact absurd List.mem_cons_self hs
    | cons x c =>
      obtain ⟨-, hr⟩ := List.cons.inj hc
      exact .inr ⟨c, b, (List.append_assoc c stretch b).trans hr.symm⟩

/-- The longest stretches are the lines and the tail. -/
theorem short_iff (m : Nat) (data : Bytes) :
    Short m data ↔ (∀ line ∈ whole data, line.length ≤ m) ∧ (tail data).length ≤ m := by
  constructor
  · intro h
    exact ⟨fun line hl => h line (infix_of_mem_whole hl) (notMem_of_mem_whole hl),
      h _ (tail_suffix data).isInfix (notMem_tail data)⟩
  · intro h stretch hi hs
    induction data using induct with
    | unended data hn =>
      rw [tail_of_notMem hn] at h
      exact Nat.le_trans hi.length_le h.2
    | line l rest hl ih =>
      rw [whole_line hl, tail_line hl] at h
      rcases infix_line_iff hs hi with hi | hi
      · exact Nat.le_trans hi.length_le (h.1 l List.mem_cons_self)
      · exact ih ⟨fun line hm => h.1 line (List.mem_cons_of_mem l hm), h.2⟩ hi

/-- What the lines of a byte string hold, but for the empty ones. -/
def contents (data : Bytes) : List Bytes := ((whole data).map trim).filter (· ≠ [])

/-- The byte string ends with a newline, and none of its lines is longer than `m` bytes. -/
structure Fits (m : Nat) (data : Bytes) : Prop where
  ended : tail data = []
  short : ∀ line ∈ whole data, line.length ≤ m

theorem Fits.toShort {m : Nat} {data : Bytes} (h : Fits m data) : Short m data :=
  (short_iff m data).mpr ⟨h.short, by rw [h.ended]; exact Nat.zero_le m⟩

/-- What the lines of the byte string hold is at most `m` bytes long, and so is its tail. A carriage
return at the end of a line does not count. -/
structure Tidy (m : Nat) (data : Bytes) : Prop where
  lines : ∀ line ∈ whole data, (trim line).length ≤ m
  tail : (tail data).length ≤ m

theorem Short.tidy {m : Nat} {data : Bytes} (h : Short m data) : Tidy m data := by
  obtain ⟨hlines, htail⟩ := (short_iff m data).mp h
  exact ⟨fun line hl => Nat.le_trans (length_trim_le line) (hlines line hl), htail⟩

theorem tidy_line_iff {m : Nat} {line : Bytes} (hl : newline ∉ line) (rest : Bytes) :
    Tidy m (line ++ newline :: rest) ↔ (trim line).length ≤ m ∧ Tidy m rest := by
  constructor
  · rintro ⟨hlines, htail⟩
    rw [whole_line hl] at hlines
    rw [tail_line hl] at htail
    obtain ⟨hline, hrest⟩ := List.forall_mem_cons.mp hlines
    exact ⟨hline, hrest, htail⟩
  · rintro ⟨hline, hrest, htail⟩
    refine ⟨?_, by rwa [tail_line hl]⟩
    rw [whole_line hl]
    exact List.forall_mem_cons.mpr ⟨hline, hrest⟩

theorem tidy_iff_of_notMem {m : Nat} {data : Bytes} (hn : newline ∉ data) :
    Tidy m data ↔ data.length ≤ m := by
  constructor
  · intro h
    have htail := h.tail
    rwa [tail_of_notMem hn] at htail
  · intro h
    refine ⟨fun line hl => ?_, by rwa [tail_of_notMem hn]⟩
    rw [whole_of_notMem hn] at hl
    exact absurd hl List.not_mem_nil

theorem length_trim_drop_le (line : Bytes) (n : Nat) :
    (trim (line.drop n)).length ≤ (trim line).length := by
  by_cases hn : line.length ≤ n
  · rw [List.drop_eq_nil_of_le hn]
    exact Nat.zero_le _
  · unfold trim
    rw [List.getLast?_drop, if_neg hn]
    split
    · rw [List.length_dropLast, List.length_dropLast, List.length_drop]
      omega
    · rw [List.length_drop]
      omega

theorem Tidy.drop {m : Nat} {data : Bytes} (h : Tidy m data) (n : Nat) : Tidy m (data.drop n) := by
  induction data using induct generalizing n with
  | unended data hn =>
    rw [tidy_iff_of_notMem hn] at h
    rw [tidy_iff_of_notMem fun hm => hn (List.mem_of_mem_drop hm), List.length_drop]
    omega
  | line l rest hl ih =>
    obtain ⟨hline, hrest⟩ := (tidy_line_iff hl rest).mp h
    rw [List.drop_append]
    by_cases hn : n ≤ l.length
    · rw [Nat.sub_eq_zero_of_le hn, List.drop_zero,
        tidy_line_iff fun hm => hl (List.mem_of_mem_drop hm)]
      exact ⟨Nat.le_trans (length_trim_drop_le l n) hline, hrest⟩
    · obtain ⟨k, hk⟩ := Nat.exists_eq_add_one_of_ne_zero (by omega : n - l.length ≠ 0)
      rw [List.drop_eq_nil_of_le (by omega), List.nil_append, hk, List.drop_succ_cons]
      exact ih hrest k

/-- The tokens of a byte string: its entries, but for the empty ones. -/
def tokens (data : Bytes) : List Bytes := (entries data).filter (· ≠ [])

theorem tokens_eq (data : Bytes) : tokens data = contents data ++ text (.token (tail data)) := by
  rw [tokens, entries, List.filter_append, contents, text]
  by_cases ht : tail data = [] <;> simp [ht]

theorem tokens_of_ended {data : Bytes} (h : tail data = []) : tokens data = contents data := by
  rw [tokens_eq, h, text, if_pos rfl, List.append_nil]

theorem tokens_of_notMem {data : Bytes} (h : newline ∉ data) :
    tokens data = text (.token data) := by
  rw [tokens_eq, contents, whole_of_notMem h, tail_of_notMem h]
  rfl

theorem contents_line {line : Bytes} (h : newline ∉ line) (rest : Bytes) :
    contents (line ++ newline :: rest) = text (.token (trim line)) ++ contents rest := by
  rw [contents, whole_line h, List.map_cons, List.filter_cons, text, contents]
  by_cases ht : trim line = [] <;> simp [ht]

theorem cut_append_of_ended {front : Bytes} (h : tail front = []) (back : Bytes) :
    whole (front ++ back) = whole front ++ whole back ∧ tail (front ++ back) = tail back := by
  induction front using induct with
  | unended data hn =>
    rw [tail_of_notMem hn] at h
    subst h
    exact ⟨rfl, rfl⟩
  | line l rest hl ih =>
    rw [tail_line hl] at h
    obtain ⟨hw, ht⟩ := ih h
    rw [List.append_assoc, List.cons_append, whole_line hl, tail_line hl, whole_line hl, hw, ht]
    exact ⟨rfl, rfl⟩

/-- Where a byte string ends with a newline, there is a newline in whatever is left behind a line. -/
theorem eq_nil_of_ended {front back : Bytes} (h : tail (front ++ back) = [])
    (hf : tail front = [] ∨ back = []) (hn : newline ∉ back) : back = [] := by
  rcases hf with hf | hf
  · rwa [(cut_append_of_ended hf back).2, tail_of_notMem hn] at h
  · exact hf

theorem contents_append {front : Bytes} (h : tail front = []) (back : Bytes) :
    contents (front ++ back) = contents front ++ contents back := by
  rw [contents, (cut_append_of_ended h back).1, List.map_append, List.filter_append]
  rfl

theorem tokens_append {front : Bytes} (h : tail front = []) (back : Bytes) :
    tokens (front ++ back) = tokens front ++ tokens back := by
  rw [tokens_of_ended h, tokens_eq, tokens_eq back, contents_append h,
    (cut_append_of_ended h back).2, List.append_assoc]

theorem Fits.of_append {m : Nat} {front back : Bytes} (h : Fits m (front ++ back))
    (hf : tail front = []) : Fits m back := by
  obtain ⟨hw, ht⟩ := cut_append_of_ended hf back
  refine ⟨ht ▸ h.ended, fun line hl => h.short line ?_⟩
  rw [hw]
  exact List.mem_append_right _ hl

theorem items_of_tidy {m : Nat} {data : Bytes} (h : Tidy m data) (hn : newline ∉ data)
    (place : Nat) : items m place data = [] := by
  have hl := (tidy_iff_of_notMem hn).mp h
  rw [items_of_notMem hn, if_neg (by omega)]

theorem texts_items {m : Nat} {data : Bytes} (h : Tidy m data) (place : Nat) :
    texts (items m place data) = contents data := by
  induction data using induct generalizing place with
  | unended data hn =>
    rw [items_of_tidy h hn, contents, whole_of_notMem hn]
    rfl
  | line l data hl ih =>
    obtain ⟨hline, hrest⟩ := (tidy_line_iff hl data).mp h
    rw [items_line hl, report, if_pos hline, texts_cons, contents_line hl, ih hrest]

/-- Where a run over the items stops, a line ends, and the rest of the items are of what follows. -/
theorem split_items {m : Nat} {data : Bytes} (h : Tidy m data) {place : Nat}
    {done rest : List (Scanned × Nat)} (hi : items m place data = done ++ rest) :
    ∃ front back, data = front ++ back ∧ tail front = [] ∧ texts done = contents front ∧
      stop place done = place + front.length ∧ texts rest = contents back ∧
      (rest = [] → newline ∉ back) := by
  induction data using induct generalizing place done with
  | unended data hn =>
    rw [items_of_tidy h hn] at hi
    obtain ⟨rfl, rfl⟩ := List.append_eq_nil_iff.mp hi.symm
    refine ⟨[], data, rfl, rfl, rfl, rfl, ?_, fun _ => hn⟩
    rw [contents, whole_of_notMem hn]
    rfl
  | line l data hl ih =>
    cases done with
    | nil =>
      rw [List.nil_append] at hi
      refine ⟨[], _, rfl, rfl, rfl, rfl, ?_, ?_⟩
      · rw [← hi]
        exact texts_items h place
      · rintro rfl
        rw [items_line hl] at hi
        cases hi
    | cons item done =>
      obtain ⟨hline, htidy⟩ := (tidy_line_iff hl data).mp h
      rw [items_line hl, report, if_pos hline] at hi
      obtain ⟨rfl, hrest⟩ := List.cons.inj hi
      obtain ⟨front, back, rfl, ht, htexts, hstop, hback⟩ := ih htidy hrest
      refine ⟨l ++ newline :: front, back, ?_, ?_, ?_, ?_, hback⟩
      · rw [List.append_assoc, List.cons_append]
      · rw [tail_line hl, ht]
      · rw [texts_cons, contents_line hl, htexts]
      · rw [stop, hstop, List.length_append, List.length_cons]
        omega

end Lines

/-! ## The reading -/

/-- Files are cut into lines whose newline is a single byte, and the buffer may grow to the greatest line
and its terminators. -/
structure ReadSettings.Lined (settings : ReadSettings) : Prop where
  framing : settings.framing = settings.encoding.lines
  codeUnit : settings.encoding.codeUnit = 1
  sized : settings.framing.Sized settings.maxLogSize

/-- Files have no header, and are cut into such lines. -/
structure ReadSettings.Plain (settings : ReadSettings) : Prop where
  header : settings.header = none
  framing : settings.framing = settings.encoding.lines
  codeUnit : settings.encoding.codeUnit = 1
  sized : settings.framing.Sized settings.maxLogSize

theorem ReadSettings.Plain.lined {settings : ReadSettings} (h : settings.Plain) : settings.Lined :=
  ⟨h.framing, h.codeUnit, h.sized⟩

namespace Session

/-- What a scanner and a session come to when tokens are delivered, item by item. It may end anywhere,
since the fuel may be used up. -/
inductive Course (settings : ReadSettings) : Scanner → Session → Scanner → Session → Prop
  | starved {c : Scanner} {s : Session} : Course settings c s c s
  | stopped {c : Scanner} {s : Session} : Course settings c s c s.looked
  | ended {c c' : Scanner} {s : Session} {result : ScanResult} : c.next = (result, c') →
      Course settings c s c' s.looked
  | dropped {c c' d : Scanner} {s t : Session} {size : Nat} :
      c.next = (.found (.oversized size), c') →
      Course settings c' (s.looked.advance c'.position) d t → Course settings c s d t
  | rejected {c c' : Scanner} {s t : Session} {token : Bytes} {e : Error} :
      c.next = (.found (.token token), c') → s.looked.emit settings token = (.error e, t) →
      Course settings c s c' t
  | passed {c c' d : Scanner} {s s' t : Session} {token : Bytes} :
      c.next = (.found (.token token), c') → s.looked.emit settings token = (.ok (), s') →
      Course settings c' (s'.advance c'.position) d t → Course settings c s d t

theorem course_deliver (settings : ReadSettings) (fuel : Nat) (framed : Bool) (scanner : Scanner)
    (s : Session) :
    Course settings scanner s (deliver settings fuel framed scanner s).2.1
      (deliver settings fuel framed scanner s).2.2 := by
  induction fuel generalizing framed scanner s with
  | zero => exact .starved
  | succ fuel ih =>
    rw [deliver]
    split
    · exact .stopped
    · cases hnext : scanner.next with
      | mk result c =>
        cases result with
        | exhausted => exact .ended hnext
        | failed cause => exact .ended hnext
        | found item =>
          cases item with
          | oversized size => exact .dropped hnext (ih true c _)
          | token token =>
            cases hemit : s.looked.emit settings token with
            | mk outcome t =>
              cases outcome with
              | error e =>
                simp only [hemit]
                exact .rejected hnext hemit
              | ok =>
                simp only [hemit]
                exact .passed hnext hemit (ih true c _)

theorem Course.source {settings : ReadSettings} {c d : Scanner} {s t : Session} {P : Source → Prop}
    (h : Course settings c s d t) (hp : ∀ source n, P source → P (source.read n).2)
    (hc : P c.source) : P d.source := by
  have hmoves {c c' : Scanner} {result : ScanResult} (hn : c.next = (result, c')) (hc : P c.source) :
      P c'.source := by simpa only [hn] using c.next_source hp hc
  induction h with
  | starved => exact hc
  | stopped => exact hc
  | ended hn => exact hmoves hn hc
  | dropped hn _ ih => exact ih (hmoves hn hc)
  | rejected hn _ => exact hmoves hn hc
  | passed hn _ _ ih => exact ih (hmoves hn hc)

/-- What holds of a session after each look, each token and each move of the offset, if it held before,
holds when the tokens of a scanner have been delivered. -/
theorem Course.keeps {settings : ReadSettings} {c d : Scanner} {s t : Session} {P : Session → Prop}
    (h : Course settings c s d t) (hlook : ∀ s, P s → P s.looked)
    (hemit : ∀ s token, P s → P (s.emit settings token).2)
    (hadvance : ∀ s place, P s → P (s.advance place)) (hs : P s) : P t := by
  have hemits {s t : Session} {token : Bytes} {outcome : Except Error Unit}
      (he : s.looked.emit settings token = (outcome, t)) (hs : P s) : P t := by
    simpa only [he] using hemit s.looked token (hlook s hs)
  induction h with
  | starved => exact hs
  | stopped => exact hlook _ hs
  | ended _ => exact hlook _ hs
  | dropped _ _ ih => exact ih (hadvance _ _ (hlook _ hs))
  | rejected _ he => exact hemits he hs
  | passed _ he _ ih => exact ih (hadvance _ _ (hemits he hs))

theorem deliverRest_keeps {settings : ReadSettings} {P : Session → Prop}
    (hemit : ∀ s token, P s → P (s.emit settings token).2)
    (hadvance : ∀ s place, P s → P (s.advance place)) (scanner : Scanner) {s : Session} (h : P s) :
    P (s.deliverRest settings scanner).2.2 := by
  unfold deliverRest
  rcases scanner.takeRemaining with ⟨_ | rest, t⟩
  · exact h
  · simp only
    split
    · exact hadvance s t.position h
    · have he := hemit s rest h
      generalize s.emit settings rest = emitted at he
      obtain ⟨_ | _, s'⟩ := emitted
      · exact he
      · exact hadvance s' t.position he

theorem deliverRest_of_none {settings : ReadSettings} {scanner : Scanner} {s : Session}
    (h : scanner.takeRemaining.1 = none) :
    s.deliverRest settings scanner = (.ok (), scanner.takeRemaining.2, s) := by
  unfold deliverRest
  generalize scanner.takeRemaining = r at h ⊢
  obtain ⟨left, t⟩ := r
  cases h
  rfl

/-- What is left is offered like a token, unless it is too large. -/
theorem deliverRest_of_le {settings : ReadSettings} {scanner : Scanner} {s : Session}
    {rest : Bytes} (h : scanner.takeRemaining.1 = some rest)
    (hl : rest.length ≤ settings.maxLogSize) :
    s.deliverRest settings scanner =
      match s.emit settings rest with
      | (.error e, t) => (.error e, scanner.takeRemaining.2, t)
      | (.ok (), t) =>
        (.ok (), scanner.takeRemaining.2, t.advance scanner.takeRemaining.2.position) := by
  unfold deliverRest
  generalize scanner.takeRemaining = r at h ⊢
  obtain ⟨left, t⟩ := r
  obtain rfl : left = some rest := h
  exact if_neg (Nat.not_lt.mpr hl)

end Session

namespace Scanner

theorem takeRemaining_source (s : Scanner) : s.takeRemaining.2.source = s.source := by
  unfold takeRemaining
  split
  · rfl
  · simp only
    split <;> rfl

end Scanner

namespace Reader

open Session (run Ending)

variable {settings : ReadSettings}

/-- The session that reads a file of the given size. -/
def session (settings : ReadSettings) (r : Reader) (sink : Sink) (size : Nat) : Session :=
  { reader := { r with lastSeenSize := size }, decoder := .new settings.encoding, sink }

/-- The items of what stands behind the offset. -/
def itemsOf (settings : ReadSettings) (r : Reader) (content : Bytes) : List (Scanned × Nat) :=
  Lines.items settings.maxLogSize r.offset (content.drop r.offset)

/-- The run over the items of a file. -/
def ran (settings : ReadSettings) (r : Reader) (sink : Sink) (content : Bytes) :
    Ending × Session :=
  run settings false (r.itemsOf settings content) (r.session settings sink content.length)

theorem runs_ran (settings : ReadSettings) (r : Reader) (sink : Sink) (content : Bytes) :
    Session.Runs settings false (r.itemsOf settings content)
      (r.session settings sink content.length) (r.ran settings sink content) :=
  Session.runs false _ rfl

/-- What the scanner has come to when all items of a file are found. -/
structure Finished (settings : ReadSettings) (r : Reader) (content : Bytes) (scanner : Scanner) :
    Prop where
  left : scanner.takeRemaining.1 =
    Lines.remainder settings.maxLogSize (content.drop r.offset)
  position : scanner.takeRemaining.2.position =
    r.offset + (content.drop r.offset).length

/-- How a reading goes on when the run over the items has ended. -/
def conclude (settings : ReadSettings) (size : Nat) (closing : Bool → Bool) (scanner : Scanner) :
    Ending × Session → Reading
  | (.stopped, s) => s.close scanner (.ok ⟨s.emitted, false⟩)
  | (.failed e, s) => s.close scanner (.error e)
  | (.exhausted framed, s) =>
    if closing framed then
      match s.deliverRest settings scanner with
      | (.error e, scanner, s) => s.close scanner (.error e)
      | (.ok (), scanner, s) => s.close scanner (.ok ⟨s.emitted, s.reader.offset == size⟩)
    else s.close scanner (.ok ⟨s.emitted, s.reader.offset == size⟩)

/-- The scanner of what was opened, from the offset on. -/
def scanner (settings : ReadSettings) (r : Reader) (opened : FileSystem.Opened) : Scanner :=
  .new settings.framing settings.maxLogSize (r.source settings opened) r.offset

/-- Delivering from what was opened, from the offset on. -/
def deliver (settings : ReadSettings) (r : Reader) (sink : Sink) (opened : FileSystem.Opened) :
    Ending × Scanner × Session :=
  Session.deliver settings (opened.size - r.offset + 2) false (r.scanner settings opened)
    (r.session settings sink opened.size)

theorem course_deliver (settings : ReadSettings) (r : Reader) (sink : Sink)
    (opened : FileSystem.Opened) :
    Session.Course settings (r.scanner settings opened) (r.session settings sink opened.size)
      (r.deliver settings sink opened).2.1 (r.deliver settings sink opened).2.2 :=
  Session.course_deliver settings _ false _ _

/-- A reading does nothing if the file was read to its end and has not grown. Else it delivers, and goes
on as that ends. -/
theorem readOpened_eq (settings : ReadSettings) (r : Reader) (sink : Sink)
    (opened : FileSystem.Opened) (flush : Bool) :
    r.readOpened settings sink opened flush =
      if opened.size = r.offset ∧ opened.size = r.lastSeenSize then ⟨.ok ⟨0, true⟩, r, sink⟩
      else
        conclude settings opened.size
          (fun framed => flush || (!framed && opened.size == r.lastSeenSize))
          (r.deliver settings sink opened).2.1
          ((r.deliver settings sink opened).1, (r.deliver settings sink opened).2.2) := by
  unfold readOpened
  simp only
  split
  · rfl
  · have hs : { r with lastSeenSize := opened.size }.source settings opened =
        r.source settings opened := by cases opened <;> rfl
    rw [hs]
    unfold deliver scanner session
    generalize Session.deliver settings _ _ _ _ = delivered
    obtain ⟨ending, scanner, s⟩ := delivered
    cases ending <;> rfl

theorem stream_source (settings : ReadSettings) (r : Reader) (content : Bytes) :
    (r.source settings (.file content)).stream = content.drop r.offset :=
  Source.stream_ofContent _ _ _ _

/-- The scanner reads the file to the end of the delivery, and so adds nothing to a fingerprint that has
all it may have of it. -/
theorem ofFile_deliver {r : Reader} {content : Bytes}
    (hf : r.fingerprint = .ofContent settings.fingerprintSize content) (sink : Sink) :
    Source.OfFile content settings.fingerprintSize
      (r.deliver settings sink (.file content)).2.1.source :=
  (r.course_deliver settings sink (.file content)).source (fun _ n h => h.read n)
    ⟨stream_source settings r content, rfl, hf⟩

/-- A reading is a run over what its scanner gives, with what follows from how that ends. -/
theorem readOpened_drains {r : Reader} {content : Bytes} {items : List (Scanned × Nat)}
    {t : Scanner} (hd : Scanner.Drains (r.scanner settings (.file content)) items [] t)
    (hlen : items.length ≤ content.length - r.offset) (sink : Sink) (flush : Bool)
    (hi : ¬ (content.length = r.offset ∧ content.length = r.lastSeenSize)) :
    ∃ u,
      (∀ f, (run settings false items (r.session settings sink content.length)).1 = .exhausted f →
        u = t) ∧
      (r.fingerprint = .ofContent settings.fingerprintSize content →
        u.source.fingerprint = r.fingerprint) ∧
      r.readOpened settings sink (.file content) flush =
        conclude settings content.length
          (fun framed => flush || (!framed && content.length == r.lastSeenSize)) u
          (run settings false items (r.session settings sink content.length)) := by
  have hfuel : items.length < content.length - r.offset + 2 := by omega
  obtain ⟨u, hrun, hu⟩ := Session.deliver_eq_run settings hd hfuel false
    (r.session settings sink content.length)
  have hdeliver : r.deliver settings sink (.file content) =
      ((run settings false items (r.session settings sink content.length)).1, u,
        (run settings false items (r.session settings sink content.length)).2) := hrun
  refine ⟨u, hu, ?_, ?_⟩
  · intro hfp
    have hsource := ofFile_deliver hfp sink
    rw [hdeliver] at hsource
    exact hsource.fingerprint.trans hfp.symm
  · rw [readOpened_eq, hdeliver]
    exact if_neg hi

/-- The scanner of a file finds its items. -/
theorem drains_file (hp : settings.Lined) (r : Reader) (content : Bytes) :
    ∃ t, Scanner.Drains (r.scanner settings (.file content)) (r.itemsOf settings content) [] t ∧
      Finished settings r content t := by
  have hrule : settings.framing = Lines.rule := hp.framing.trans (Lines.lines_eq_rule hp.codeUnit)
  obtain ⟨t, hdrains, hleft, hpos⟩ := Scanner.drains_rule (hrule ▸ hp.sized)
    (r.source settings (.file content)) r.offset
  rw [stream_source, ← hrule] at hdrains
  rw [stream_source] at hleft hpos
  exact ⟨t, hdrains, hleft, hpos⟩

/-- A reading of a file is a run over its items, with what follows from how that ends. -/
theorem readOpened_file (hp : settings.Lined) (r : Reader) (sink : Sink) (content : Bytes)
    (flush : Bool)
    (hi : ¬ (content.length = r.offset ∧ content.length = r.lastSeenSize)) :
    ∃ scanner,
      (∀ f, (r.ran settings sink content).1 = .exhausted f →
        Finished settings r content scanner) ∧
      (r.fingerprint = .ofContent settings.fingerprintSize content →
        scanner.source.fingerprint = r.fingerprint) ∧
      r.readOpened settings sink (.file content) flush =
        conclude settings content.length
          (fun framed => flush || (!framed && content.length == r.lastSeenSize)) scanner
          (r.ran settings sink content) := by
  obtain ⟨t, hdrains, hfinished⟩ := drains_file hp r content
  have hlen : (r.itemsOf settings content).length ≤ content.length - r.offset := by
    have h := Lines.length_items_le settings.maxLogSize r.offset (content.drop r.offset)
    rwa [List.length_drop] at h
  obtain ⟨u, hu, hfp, hread⟩ := readOpened_drains hdrains hlen sink flush hi
  refine ⟨u, fun f hrun => ?_, hfp, hread⟩
  rw [hu f hrun]
  exact hfinished

/-- Where nothing is left, a reading ends as the run over the items does. -/
theorem conclude_of_none (settings : ReadSettings) {scanner : Scanner} (result : Ending × Session)
    (h : ∀ f, result.1 = .exhausted f → scanner.takeRemaining.1 = none) (size : Nat)
    (closing : Bool → Bool) :
    ∃ u outcome, conclude settings size closing scanner result = result.2.close u outcome ∧
      u.source = scanner.source := by
  obtain ⟨ending, s⟩ := result
  cases ending with
  | stopped => exact ⟨scanner, _, rfl, rfl⟩
  | failed e => exact ⟨scanner, _, rfl, rfl⟩
  | exhausted framed =>
    rw [conclude]
    split
    · rw [Session.deliverRest_of_none (h framed rfl)]
      exact ⟨scanner.takeRemaining.2, _, rfl, scanner.takeRemaining_source⟩
    · exact ⟨scanner, _, rfl, rfl⟩

/-- A reading has passed the bytes `front` of what stood behind the offset and has left `back`. Only at
the end of the file it stands behind bytes that form no line. Unless the sink puts an end to it, it has
left no line, and nothing at all if it flushes or the file has not grown. -/
structure Proceeds (settings : ReadSettings) (r : Reader) (sink : Sink) (content : Bytes)
    (flush : Bool) (front back : Bytes) (reading : Reading) : Prop where
  split : content.drop r.offset = front ++ back
  ended : Lines.tail front = [] ∨ back = []
  accepted : reading.sink.accepted = sink.accepted ++
    r.header.events settings r.fileAttributes (Lines.tokens front)
  meets : ∃ refused, HeaderState.Meets settings r.fileAttributes r.header sink (Lines.tokens front)
    (Lines.tokens back) refused reading.reader.header reading.sink
  reader : reading.reader =
    { r with
      offset := r.offset + front.length
      lastSeenSize := content.length
      header := reading.reader.header
      fingerprint := reading.reader.fingerprint }
  fingerprint : r.fingerprint = .ofContent settings.fingerprintSize content →
    reading.reader.fingerprint = r.fingerprint
  leads : sink.Leads reading.sink
  ends : r.header.Stops settings r.fileAttributes sink (Lines.tokens front) reading.sink ∨
    Lines.newline ∉ back ∧ (flush = true ∨
      (content.length = r.lastSeenSize ∧ Lines.newline ∉ content.drop r.offset) → back = [])

section

variable {r : Reader} {sink : Sink} {content front back : Bytes} {flush : Bool} {reading : Reading}

theorem Proceeds.header (h : Proceeds settings r sink content flush front back reading) :
    (r.header.past settings (Lines.tokens front)).Awaits settings (Lines.tokens back)
      reading.reader.header := by
  obtain ⟨refused, hm⟩ := h.meets
  exact hm.awaits

/-- Where no token was turned away and the sink does not stop it, a reading has come to the end. -/
theorem Proceeds.ends_of_goes (h : Proceeds settings r sink content flush front back reading)
    (hm : HeaderState.Meets settings r.fileAttributes r.header sink (Lines.tokens front)
      (Lines.tokens back) none reading.reader.header reading.sink) (hg : sink.Goes) :
    Lines.newline ∉ back ∧ (flush = true ∨
      (content.length = r.lastSeenSize ∧ Lines.newline ∉ content.drop r.offset) → back = []) :=
  h.ends.resolve_left fun hs => hm.refused_of_stops hs (h.leads.toGoes hg) rfl

theorem Proceeds.ends_of_willing (h : Proceeds settings r sink content flush front back reading)
    (hw : sink.Willing) :
    Lines.newline ∉ back ∧ (flush = true ∨
      (content.length = r.lastSeenSize ∧ Lines.newline ∉ content.drop r.offset) → back = []) := by
  obtain ⟨refused, hm⟩ := h.meets
  obtain rfl := hm.willing hw
  exact h.ends_of_goes hm hw.toGoes

theorem Proceeds.willing (h : Proceeds settings r sink content flush front back reading)
    (hw : sink.Willing) : reading.sink.Willing ∧ Lines.newline ∉ back :=
  ⟨h.leads.willing hw, (h.ends_of_willing hw).1⟩

theorem Proceeds.whole (h : Proceeds settings r sink content flush front back reading)
    (hw : sink.Willing) : flush = true ∨
      (content.length = r.lastSeenSize ∧ Lines.newline ∉ content.drop r.offset) → back = [] :=
  (h.ends_of_willing hw).2

end

theorem Proceeds.of_passes {r : Reader} {sink : Sink} {content front back : Bytes} {flush : Bool}
    {s : Session} {scanner : Scanner} (hsplit : content.drop r.offset = front ++ back)
    (hended : Lines.tail front = [] ∨ back = [])
    (hs : Session.Passes settings (r.session settings sink content.length) (Lines.tokens front)
      (Lines.tokens back) (r.offset + front.length) s)
    (hf : r.fingerprint = .ofContent settings.fingerprintSize content →
      scanner.source.fingerprint = r.fingerprint)
    (hends : (r.session settings sink content.length).Stops settings (Lines.tokens front) s ∨
      Lines.newline ∉ back ∧ (flush = true ∨
        (content.length = r.lastSeenSize ∧ Lines.newline ∉ content.drop r.offset) → back = []))
    (outcome : Except Error ReadOutcome) :
    Proceeds settings r sink content flush front back (s.close scanner outcome) where
  split := hsplit
  ended := hended
  accepted := hs.accepted
  meets := hs.meets
  reader := by
    rw [Session.close, hs.reader]
    rfl
  fingerprint := hf
  leads := hs.leads
  ends := hends

/-- Bytes behind the last line are passed as if they were a line, unless the sink turns them away. -/
theorem proceeds_rest {r : Reader} {sink : Sink} {content front back : Bytes} {flush framed : Bool}
    {s : Session} {scanner : Scanner} {closing : Bool → Bool}
    (hsplit : content.drop r.offset = front ++ back) (hended : Lines.tail front = [])
    (hback : Lines.newline ∉ back) (hlen : back.length ≤ settings.maxLogSize)
    (hs : Session.Passes settings (r.session settings sink content.length) (Lines.tokens front) []
      (r.offset + front.length) s)
    (hfin : Finished settings r content scanner)
    (hsource : r.fingerprint = .ofContent settings.fingerprintSize content →
      scanner.source.fingerprint = r.fingerprint)
    (hc : closing framed = true) :
    ∃ front' back', Proceeds settings r sink content flush front' back'
      (conclude settings content.length closing scanner (.exhausted framed, s)) := by
  have htail : Lines.tail (content.drop r.offset) = back := by
    rw [hsplit, (Lines.cut_append_of_ended hended back).2, Lines.tail_of_notMem hback]
  have hsource' : r.fingerprint = .ofContent settings.fingerprintSize content →
      scanner.takeRemaining.2.source.fingerprint = r.fingerprint := by
    rw [scanner.takeRemaining_source]
    exact hsource
  obtain ⟨hleft, hpos⟩ := hfin
  rw [Lines.remainder, htail] at hleft
  rw [conclude, if_pos hc]
  by_cases hb : back = []
  · rw [if_pos (.inl hb)] at hleft
    rw [Session.deliverRest_of_none hleft]
    exact ⟨front, back, .of_passes hsplit (.inl hended) (hs.append_right _) hsource'
      (.inr ⟨hback, fun _ => hb⟩) _⟩
  · rw [if_neg (by rintro (h | h); exacts [hb h, by omega])] at hleft
    rw [Session.deliverRest_of_le hleft hlen]
    have hplace : s.reader.offset = r.offset + front.length := by rw [hs.reader]
    have he : Session.Emits settings s back (s.emit settings back) :=
      Session.emits hs.decoder back
    -- A line that is turned away is not passed: the reader stays in front of it.
    generalize s.emit settings back = result at he
    cases he with
    | passed ht =>
      have htrans := (hs.trans ht).advance scanner.takeRemaining.2.position
      rw [← Lines.tokens_of_notMem hback, ← Lines.tokens_append hended] at htrans
      refine ⟨front ++ back, [], .of_passes (by rw [hsplit, List.append_nil]) (.inr rfl) ?_ hsource'
        (.inr ⟨List.not_mem_nil, fun _ => rfl⟩) _⟩
      rw [hpos, hsplit] at htrans ⊢
      exact htrans
    | rejected e ht hstops =>
      have htrans := hs.trans ht
      have hstops := hs.stops_append hstops
      rw [List.append_nil] at hstops
      rw [← Lines.tokens_of_notMem hback, List.append_nil, hplace] at htrans
      exact ⟨front, back, .of_passes hsplit (.inl hended) htrans hsource'
        (.inl hstops) _⟩

/-- **A reading of lines that fit passes a beginning of the file.** Whatever the sink does, the events of
the tokens that are passed have been accepted, and no others. -/
theorem proceeds_of_tidy (hp : settings.Lined) {r : Reader} {content : Bytes}
    (htidy : Lines.Tidy settings.maxLogSize (content.drop r.offset)) (sink : Sink)
    (flush : Bool) :
    ∃ front back, Proceeds settings r sink content flush front back
      (r.readOpened settings sink (.file content) flush) := by
  by_cases hi : content.length = r.offset ∧ content.length = r.lastSeenSize
  · have hidle : r.readOpened settings sink (.file content) flush = ⟨.ok ⟨0, true⟩, r, sink⟩ :=
      if_pos hi
    rw [hidle]
    refine ⟨[], [], List.drop_of_length_le (by omega), .inl rfl, (List.append_nil _).symm,
      ⟨none, .nothing _ _ _ _ _⟩, ?_, fun _ => rfl, .refl sink, .inr ⟨List.not_mem_nil, fun _ => rfl⟩⟩
    rw [hi.2]
    rfl
  · obtain ⟨scanner, hfin, hsource, hread⟩ := readOpened_file hp r sink content flush hi
    obtain ⟨⟨done, rest, hitems, ha, hstops, hall⟩, hends⟩ := runs_ran settings r sink content
    obtain ⟨front, back, hsplit, hended, htexts, hstop, hrest, hnone⟩ :=
      Lines.split_items htidy hitems
    rw [hread]
    generalize r.ran settings sink content = result at ha hstops hall hends hfin
    obtain ⟨ending, s⟩ := result
    have hplace : Lines.stop (r.session settings sink content.length).reader.offset done =
        r.offset + front.length := hstop
    rw [htexts, ← Lines.tokens_of_ended hended] at ha hstops
    rw [hplace] at ha
    have hs : Session.Passes settings (r.session settings sink content.length)
        (Lines.tokens front) (Lines.tokens back) (r.offset + front.length) s := by
      rw [Lines.tokens_eq back, ← hrest]
      exact ha.append_right _
    cases ending with
    | stopped =>
      exact ⟨front, back, .of_passes hsplit (.inl hended) hs hsource
        (.inl (hstops.resolve_right nofun)) _⟩
    | failed e =>
      exact ⟨front, back, .of_passes hsplit (.inl hended) hs hsource
        (.inl (hstops.resolve_right nofun)) _⟩
    | exhausted framed =>
      have hback : Lines.newline ∉ back := hnone (hall framed rfl)
      have hlen : back.length ≤ settings.maxLogSize := by
        have htail := htidy.tail
        rwa [hsplit, (Lines.cut_append_of_ended hended back).2, Lines.tail_of_notMem hback] at htail
      rw [hall framed rfl] at ha
      by_cases hc : (flush || (!framed && content.length == r.lastSeenSize)) = true
      · exact proceeds_rest hsplit hended hback hlen ha (hfin framed rfl) hsource hc
      · rw [conclude, if_neg hc]
        refine ⟨front, back, .of_passes hsplit (.inl hended) hs hsource
          (.inr ⟨hback, fun h => absurd ?_ hc⟩) _⟩
        rcases h with hflush | ⟨hquiet, hn⟩
        · rw [hflush, Bool.true_or]
        · have hframed := hends framed rfl
          rw [itemsOf, Lines.items_of_tidy htidy hn] at hframed
          simp [hframed, hquiet]

theorem proceeds_readOpened (hp : settings.Lined) {r : Reader} {content : Bytes}
    (hshort : Lines.Short settings.maxLogSize (content.drop r.offset)) (sink : Sink)
    (flush : Bool) :
    ∃ front back, Proceeds settings r sink content flush front back
      (r.readOpened settings sink (.file content) flush) :=
  proceeds_of_tidy hp hshort.tidy sink flush

/-- A reading has taken the lines `front` from what stood behind the offset and has left `back`. -/
structure TakesLines (settings : ReadSettings) (r : Reader) (sink : Sink) (content : Bytes)
    (front back : Bytes) (reading : Reading) : Prop where
  split : content.drop r.offset = front ++ back
  ended : Lines.tail front = []
  reader : reading.reader =
    { r with offset := r.offset + front.length, lastSeenSize := content.length }
  accepted : reading.sink.accepted =
    sink.accepted ++ (Lines.contents front).map (Session.event settings r)
  willing : sink.Willing → back = [] ∧ reading.sink.Willing

/-- **A reading of lines that fit takes a beginning of them.** A willing sink gets all. -/
theorem takesLines_readOpened (hp : settings.Plain) {r : Reader} {content : Bytes}
    (hf : r.fingerprint = .ofContent settings.fingerprintSize content)
    (hfit : Lines.Fits settings.maxLogSize (content.drop r.offset)) (sink : Sink) (flush : Bool) :
    ∃ front back, TakesLines settings r sink content front back
      (r.readOpened settings sink (.file content) flush) := by
  obtain ⟨front, back, h⟩ := proceeds_readOpened hp.lined hfit.toShort sink flush
  have hfixed := HeaderState.meet_of_none hp.header r.header
  have hheader := h.header
  rw [HeaderState.past_of_fixed hfixed] at hheader
  have hended : Lines.tail front = [] := by
    rcases h.ended with hfront | hback
    · exact hfront
    · have hended := hfit.ended
      rwa [h.split, hback, List.append_nil] at hended
  refine ⟨front, back, h.split, hended, ?_, ?_, ?_⟩
  · rw [h.reader, hheader.eq_of_fixed hfixed, h.fingerprint hf]
  · rw [h.accepted, HeaderState.events_of_fixed hfixed, Lines.tokens_of_ended hended]
    rfl
  · intro hw
    obtain ⟨hwilling, hback⟩ := h.willing hw
    exact ⟨Lines.eq_nil_of_ended (h.split ▸ hfit.ended) h.ended hback, hwilling⟩

theorem read_of_openPath {fs : FileSystem} {r : Reader} {content : Bytes}
    (ho : fs.openPath r.path = .ok (.file content)) (hl : r.offset ≤ content.length) (sink : Sink)
    (flush : Bool) :
    r.read settings fs sink flush = r.readOpened settings sink (.file content) flush := by
  unfold read
  rw [ho]
  exact if_neg (Nat.not_lt.mpr hl)

/-- The last reading is one that flushes, if the file at the path is still the same. -/
theorem retire_of_openPath (settings : ReadSettings) {fs : FileSystem} {r : Reader} {content : Bytes}
    (ho : fs.openPath r.path = .ok (.file content)) (sink : Sink) :
    r.retire settings fs sink =
      if (Fingerprint.ofContent settings.fingerprintSize content).matchesWith r.fingerprint then
        r.read settings fs sink true
      else ⟨.ok ⟨0, false⟩, r, sink⟩ := by
  unfold retire
  rw [ho]
  rfl

end Reader

end LogFollow
