import LogFollow.Proofs.Scanner.Settled

/-!
# Streams that come in pieces

What a scanner may see of a stream it does see, if the stream comes in the right pieces. So a stream that
fits into the first buffer gives the same entries in whatever pieces it comes if it is settled for the
rule, and only then.
-/
namespace LogFollow

namespace Source

/-- The source that brings some pieces, one after another. -/
def ofPieces (pieces : List Bytes) : Source := { script := pieces.map .data }

theorem stream_ofPieces (pieces : List Bytes) : (ofPieces pieces).stream = pieces.flatten := by
  change streamOf (pieces.map .data) = _
  induction pieces with
  | nil => rfl
  | cons piece pieces ih => exact congrArg (piece ++ ·) ih

theorem failures_ofPieces (pieces : List Bytes) : (ofPieces pieces).failures = [] := by
  change failuresOf (pieces.map .data) = _
  induction pieces with
  | nil => rfl
  | cons piece pieces ih => exact ih

/-- A piece that there is room for is read as a whole. -/
theorem read_piece {source : Source} {piece : Bytes} {rest : List Delivery} {n : Nat}
    (hscript : source.script = .data piece :: rest) (hne : piece ≠ []) (hn : piece.length ≤ n) :
    ∃ source', source.read n = (.data piece, source') ∧ source'.script = rest := by
  have hdeliver : deliver n (.data piece :: rest) = (.data piece, rest) := by
    have hdrop : (piece.drop n).isEmpty = true :=
      List.isEmpty_iff.mpr (List.drop_eq_nil_iff.mpr hn)
    rw [deliver.eq_3 n piece rest hne, List.take_of_length_le hn]
    simp only [hdrop, if_true]
  unfold read
  rw [hscript, hdeliver]
  exact ⟨_, rfl, rfl⟩

end Source

namespace Mark

theorem tokensFrom_append (place : Nat) (entries more : List Bytes) :
    tokensFrom place (entries ++ more) =
      tokensFrom place entries ++ tokensFrom (place + entries.flatten.length) more := by
  induction entries generalizing place with
  | nil => rfl
  | cons entry entries ih =>
    rw [List.cons_append, tokensFrom, ih, tokensFrom, List.flatten_cons, List.length_append,
      ← Nat.add_assoc]
    rfl

/-- Tokens that begin with those of some entries are the tokens of these and more entries. -/
theorem exists_of_tokensFrom_eq {place : Nat} {entries all : List Bytes} {items : List (Scanned × Nat)}
    (h : tokensFrom place all = tokensFrom place entries ++ items) :
    ∃ more, all = entries ++ more ∧ items = tokensFrom (place + entries.flatten.length) more := by
  induction entries generalizing place all with
  | nil => exact ⟨all, rfl, h.symm⟩
  | cons entry entries ih =>
    cases all with
    | nil => cases h
    | cons first all =>
      rw [tokensFrom, tokensFrom, List.cons_append, List.cons.injEq] at h
      obtain ⟨hfirst, hrest⟩ := h
      obtain rfl := Scanned.token.inj (congrArg Prod.fst hfirst)
      obtain ⟨more, rfl, hitems⟩ := ih hrest
      refine ⟨more, rfl, ?_⟩
      rw [hitems, List.flatten_cons, List.length_append, Nat.add_assoc]

theorem tokensFrom_injective (place : Nat) : Function.Injective (tokensFrom place) := by
  intro entries all h
  have happend : tokensFrom place all = tokensFrom place entries ++ [] := by rw [List.append_nil, h]
  obtain ⟨more, rfl, hnil⟩ := exists_of_tokensFrom_eq happend
  cases more with
  | nil => exact (List.append_nil _).symm
  | cons entry more => cases hnil

end Mark

namespace Framing

variable {rule : Framing} (hr : rule.Lawful) (hg : rule.Gapless)

include hr hg

/-- The first entry of a byte string is what a rule cuts from its front. -/
theorem cut_of_split_cons {data entry : Bytes} {more : List Bytes}
    (h : (rule.split true data).1 = entry :: more) :
    rule.cut data true = .token entry.length ⟨0, entry.length⟩ ∧
      (rule.split true (data.drop entry.length)).1 = more := by
  cases hcut : rule.cut data true with
  | needsMore =>
    rw [split_needsMore hcut] at h
    cases h
  | token advance token =>
    obtain ⟨⟨-, -, hpos, hle⟩, hgapless⟩ := hr.advances hcut
    obtain rfl := hgapless hg
    rw [split_of_cut hcut hpos hle, List.cons.injEq] at h
    have hlen : entry.length = advance := by
      rw [← h.1]
      exact List.length_take_of_le hle
    rw [hlen]
    exact ⟨rfl, h.2⟩

/-- Behind the entries that a rule has cut from a byte string it cuts the next one. -/
theorem cut_of_split {data entry : Bytes} {entries more : List Bytes}
    (h : (rule.split true data).1 = entries ++ entry :: more) :
    rule.cut (data.drop entries.flatten.length) true = .token entry.length ⟨0, entry.length⟩ := by
  induction entries generalizing data with
  | nil => exact (cut_of_split_cons hr hg h).1
  | cons first entries ih =>
    have hrest := (cut_of_split_cons hr hg h).2
    rw [List.flatten_cons, List.length_append, ← List.drop_drop]
    exact ih hrest

end Framing

theorem Mark.exists_compile {mark : Mark} {pattern : String}
    (h : (mark.compile pattern).isOk = true) : ∃ rule, mark.compile pattern = .ok rule := by
  cases hc : mark.compile pattern with
  | ok rule => exact ⟨rule, rfl⟩
  | error e =>
    rw [hc] at h
    cases h

theorem Mark.lawful_of_compile {mark : Mark} {pattern : String} {rule : Framing}
    (h : mark.compile pattern = .ok rule) : rule.Lawful ∧ rule.Gapless := by
  obtain ⟨m, hm, rfl⟩ := mark.exists_matcher_of_compile h
  have hlawful := Framing.lawful_of_matcher hm
  cases mark with
  | first => exact ⟨hlawful, trivial⟩
  | last => exact ⟨hlawful, trivial⟩

namespace Scanner

variable {rule : Framing} {size : Nat} {stream : Bytes} {place read : Nat} {more : List Bytes}
  {s t u v : Scanner}

/-! ## Silent reads -/

theorem Pulls.unique {r r' : ScanResult × Scanner} (h : Pulls s r) (h' : Pulls s r') : r' = r := by
  induction h with
  | again he hm hpos hf ht _ ih =>
    cases h' with
    | again _ hm' _ hf' ht' hp =>
      cases hm'.symm.trans hm
      cases hf'.symm.trans hf
      cases ht'.symm.trans ht
      exact ih hp
    | _ => simp_all
  | _ => cases h' <;> simp_all

/-- A read without a token to show for it does not change what a call gives. -/
theorem next_of_read (h : s.Sound) (ht : s.take? = (none, u)) (he : u.atEnd = false)
    (hm : u.makeRoom = (none, t)) (hf : t.fill = (none, v)) : s.next = v.next := by
  have hu : u.Sound := by
    have htake := h.take?
    rwa [ht] at htake
  have ht' : t.Sound := by
    have hmake := hu.makeRoom
    rwa [hm] at hmake
  have hv : v.Sound := by
    have hfill := ht'.fill (lt_room_of_makeRoom hu hm) ((hm ▸ u.makeRoom_keeps).atEnd.trans he)
    rwa [hf] at hfill
  have hpull : Pulls u s.next := by
    rw [next, ht]
    exact hu.pulls
  have hpos := hu.room_ne_zero hm
  refine Pulls.unique ?_ hpull
  cases hlook : v.take? with
  | mk item w =>
    cases item with
    | some item =>
      rw [next, hlook]
      exact .found he hm hpos hf hlook
    | none =>
      have hw : w.Sound := by
        have htake := hv.take?
        rwa [hlook] at htake
      rw [next, hlook]
      exact .again he hm hpos hf hlook hw.pulls

theorem Drains.of_next_eq {items : List (Scanned × Nat)} {failures : List IoError}
    (hn : s.next = v.next) (h : Drains s items failures u) : Drains v items failures u := by
  cases h with
  | exhausted hs => exact .exhausted (hn ▸ hs)
  | found hs hd => exact .found (hn ▸ hs) hd
  | failed hs hd => exact .failed (hn ▸ hs) hd

/-- The calls on a scanner give some items first, and then what those on another one give. -/
def Leads (s : Scanner) (given : List (Scanned × Nat)) (v : Scanner) : Prop :=
  ∀ items failures u, Drains s items failures u →
    ∃ behind, items = given ++ behind ∧ Drains v behind failures u

theorem Leads.refl (s : Scanner) : Leads s [] s := fun items _ _ h => ⟨items, rfl, h⟩

theorem Leads.trans {given given' : List (Scanned × Nat)} (h : Leads s given t)
    (h' : Leads t given' u) : Leads s (given ++ given') u := by
  intro items failures w hs
  obtain ⟨middle, rfl, ht⟩ := h _ _ _ hs
  obtain ⟨behind, rfl, hu⟩ := h' _ _ _ ht
  exact ⟨behind, (List.append_assoc _ _ _).symm, hu⟩

theorem Leads.of_next_eq (h : s.next = v.next) : Leads s [] v :=
  fun items _ _ hd => ⟨items, rfl, hd.of_next_eq h⟩

theorem Leads.of_found {item : Scanned} (h : s.next = (.found item, t)) :
    Leads s [(item, t.position)] t := by
  intro items failures u hd
  cases hd with
  | exhausted hs => cases hs.symm.trans h
  | failed hs => cases hs.symm.trans h
  | found hs hd =>
    cases hs.symm.trans h
    exact ⟨_, rfl, hd⟩

/-! ## A scanner at some bytes of its stream -/

/-- A scanner that has read the stream up to some byte, and looks for a token from a place on; the rest
comes in pieces. -/
structure At (rule : Framing) (size : Nat) (stream : Bytes) (place read : Nat) (more : List Bytes)
    (s : Scanner) : Prop where
  rule_eq : s.rule = rule
  maxSize_eq : s.maxSize = size
  sound : s.Sound
  skipping : s.skipping = false
  atEnd : s.atEnd = false
  position : s.position = place
  window_eq : s.window = Bytes.slice stream place read
  script_eq : s.source.script = more.map .data
  room : stream.length ≤ s.room

theorem At.length_window (h : At rule size stream place read more s) (hread : read ≤ stream.length) :
    s.window.length = read - place := by
  rw [h.window_eq, Bytes.length_slice]
  omega

theorem fill_of_read {bytes : Bytes} {source : Source} (hne : bytes ≠ [])
    (h : s.source.read (s.room - s.window.length) = (.data bytes, source)) :
    s.fill = (none, { s with source, window := s.window ++ bytes }) := by
  obtain ⟨b, rest, rfl⟩ := List.exists_cons_of_ne_nil hne
  unfold fill
  rw [h]

/-- The next piece is read when there is no token in what is at hand. -/
theorem At.exists_read {read' : Nat}
    (h : At rule size stream place read (Bytes.slice stream read read' :: more) s)
    (hcut : rule.cut (Bytes.slice stream place read) false = .needsMore) (hplace : place ≤ read)
    (hlt : read < read') (hle : read' ≤ stream.length) :
    ∃ v, At rule size stream place read' more v ∧ s.next = v.next := by
  have hwindow := h.length_window (Nat.le_trans (Nat.le_of_lt hlt) hle)
  have hroom := h.room
  have hfits : s.window.length < s.room := by omega
  have hpiece : (Bytes.slice stream read read').length = read' - read := by
    rw [Bytes.length_slice]
    omega
  have hne : Bytes.slice stream read read' ≠ [] := List.ne_nil_of_length_pos (by omega)
  have htake : s.take? = (none, s) := by
    rw [take?_of_not_skipping h.skipping, h.rule_eq, h.atEnd, h.window_eq, hcut]
  have hmake : s.makeRoom = (none, s.compact) := if_neg (Nat.ne_of_lt hfits)
  obtain ⟨source, hsource, hscript⟩ :=
    Source.read_piece h.script_eq hne (by omega : _ ≤ s.room - s.window.length)
  have hfill : s.compact.fill = (none, { s.compact with
      source, window := s.window ++ Bytes.slice stream read read' }) :=
    fill_of_read hne hsource
  have hsound : ({ s.compact with
      source, window := s.window ++ Bytes.slice stream read read' } : Scanner).Sound := by
    have hcompact : s.compact.Sound := by
      have hmade := h.sound.makeRoom
      rwa [hmake] at hmade
    have hfilled := hcompact.fill hfits h.atEnd
    rwa [hfill] at hfilled
  refine ⟨{ s.compact with source, window := s.window ++ Bytes.slice stream read read' },
    ⟨h.rule_eq, h.maxSize_eq, hsound, h.skipping, h.atEnd, h.position, ?_, hscript, h.room⟩,
    next_of_read h.sound htake h.atEnd hmake hfill⟩
  rw [h.window_eq]
  exact Bytes.slice_append_slice stream hplace (Nat.le_of_lt hlt)

/-- The token at hand is what a call gives. -/
theorem At.next_token (h : At rule size stream place read more s) (hr : rule.Lawful)
    (hg : rule.Gapless) (hsize : stream.length ≤ size) {advance : Nat} {token : Span}
    (hcut : rule.cut (Bytes.slice stream place read) false = .token advance token) :
    s.next = (.found (.token (Bytes.slice stream place (place + advance))), s.consume advance) ∧
      At rule size stream (place + advance) read more (s.consume advance) := by
  obtain ⟨hadvances, hgapless⟩ := hr.advances hcut
  obtain rfl := hgapless hg
  have hle := hadvances.le
  rw [Bytes.length_slice] at hle
  have hslice : Bytes.slice s.window 0 advance = Bytes.slice stream place (place + advance) := by
    rw [h.window_eq, Bytes.slice, Bytes.slice, Bytes.slice, List.drop_zero, List.take_take,
      Nat.sub_zero, Nat.add_sub_cancel_left, Nat.min_eq_left (by omega)]
  have htoken := @item_of_le s advance (by rw [h.maxSize_eq]; omega)
  constructor
  · rw [next, take?_of_not_skipping h.skipping, h.rule_eq, h.atEnd, h.window_eq, hcut]
    simp only [htoken, hslice]
  · refine ⟨h.rule_eq, h.maxSize_eq, h.sound.consume advance s.skipping, h.skipping, h.atEnd, ?_, ?_,
      h.script_eq, h.room⟩
    · change s.position + advance = _
      rw [h.position]
    · change s.window.drop advance = _
      rw [h.window_eq, Bytes.slice, Bytes.slice, List.drop_take, List.drop_drop, Nat.sub_sub]

/-! ## Pieces that show what can be seen -/

theorem at_new (hs : rule.Sized size) (hsize : stream.length ≤ size) (hg : rule.Gapless)
    (hroom : stream.length ≤ initialRoom) (more : List Bytes) :
    At rule size stream 0 0 more (new rule size (.ofPieces more) 0) := by
  have hpos := lookahead_pos_of_gapless hg
  have hcapacity := capacityOf_of_sized hs
  refine ⟨rfl, rfl, new_sound (by omega) _ _, rfl, rfl, rfl, rfl, rfl, ?_⟩
  change stream.length ≤ min initialRoom (capacityOf rule size)
  omega

/-- What can be seen of a stream is seen when it comes in the right pieces. -/
theorem exists_pieces (hr : rule.Lawful) (hg : rule.Gapless) (hs : rule.Sized size)
    (hsize : stream.length ≤ size) (hroom : stream.length ≤ initialRoom) (h : rule.Sees stream 0 place read) :
    ∃ pieces entries : List Bytes, pieces.flatten = stream.take read ∧
      entries.flatten = stream.take place ∧
      ∀ more, ∃ s, At rule size stream place read more s ∧
        Leads (new rule size (.ofPieces (pieces ++ more)) 0) (Mark.tokensFrom 0 entries) s := by
  -- a read is one more piece, a token one more entry
  induction h with
  | start => exact ⟨[], [], rfl, rfl, fun more => ⟨_, at_new hs hsize hg hroom more, .refl _⟩⟩
  | @more place read read' h hcut hle hle' ih =>
    obtain ⟨pieces, entries, hpieces, hentries, hreach⟩ := ih
    rcases Nat.eq_or_lt_of_le hle with rfl | hlt
    · exact ⟨pieces, entries, hpieces, hentries, hreach⟩
    · refine ⟨pieces ++ [Bytes.slice stream read read'], entries, ?_, hentries, fun more => ?_⟩
      · rw [List.flatten_append, hpieces, List.flatten_singleton]
        exact Bytes.slice_append_slice stream (Nat.zero_le read) hle
      · obtain ⟨s, hs, hleads⟩ := hreach (Bytes.slice stream read read' :: more)
        obtain ⟨v, hv, hnext⟩ := hs.exists_read hcut (h.place_le hr) hlt hle'
        have hall := hleads.trans (.of_next_eq hnext)
        rw [List.append_nil, List.append_cons] at hall
        exact ⟨v, hv, hall⟩
  | @token place read advance token h hcut ih =>
    obtain ⟨pieces, entries, hpieces, hentries, hreach⟩ := ih
    have hplace := h.place_le hr
    have hle := (hr.advances hcut).1.le
    have hread := h.read_le (Nat.zero_le _)
    rw [Bytes.length_slice] at hle
    refine ⟨pieces, entries ++ [Bytes.slice stream place (place + advance)], hpieces, ?_,
      fun more => ?_⟩
    · rw [List.flatten_append, hentries, List.flatten_singleton]
      exact Bytes.slice_append_slice stream (Nat.zero_le place) (Nat.le_add_right _ _)
    · obtain ⟨s, hs, hleads⟩ := hreach more
      obtain ⟨hnext, hbehind⟩ := hs.next_token hr hg hsize hcut
      have hlen : entries.flatten.length = place := by
        rw [hentries, List.length_take]
        omega
      have hitem : (s.consume advance).position =
          0 + entries.flatten.length + (Bytes.slice stream place (place + advance)).length := by
        rw [hbehind.position, hlen, Bytes.length_slice]
        omega
      have hall := hleads.trans (.of_found hnext)
      rw [hitem] at hall
      rw [Mark.tokensFrom_append]
      exact ⟨_, hbehind, hall⟩

/-! ## Streams that give the same in all pieces -/

/-- In whatever pieces a stream comes, it gives the same entries, and the same is left. -/
def DrainsAlike (rule : Framing) (size : Nat) (stream : Bytes) : Prop :=
  ∃ entries rest, ∀ pieces : List Bytes, pieces.flatten = stream →
    DrainsAs rule size (.ofPieces pieces) 0 entries rest

theorem DrainsAs.entries_eq {source : Source} {entries entries' : List Bytes} {rest rest' : Bytes}
    (h : DrainsAs rule size source place entries rest)
    (h' : DrainsAs rule size source place entries' rest') : entries' = entries := by
  obtain ⟨t, ht, -⟩ := h
  obtain ⟨u, hu, -⟩ := h'
  exact Mark.tokensFrom_injective place (ht.unique hu).1

theorem settled_nil (rule : Framing) : rule.Settled [] := by
  intro place read advance token _ hcut
  rw [Bytes.slice, List.drop_nil, List.take_nil] at hcut
  cases hcut

/-- A stream that comes in one piece gives the entries of the whole stream. -/
theorem drainsAs_piece (hr : rule.Lawful) (hg : rule.Gapless) (hs : rule.Sized size)
    (hsize : stream.length ≤ size) (hroom : stream.length ≤ initialRoom) :
    DrainsAs rule size (.ofPieces [stream]) 0 (rule.split true stream).1
      (rule.split true stream).2 := by
  have hstream : (Source.ofPieces [stream]).stream = stream := by
    rw [Source.stream_ofPieces, List.flatten_singleton]
  by_cases hne : stream = []
  · subst hne
    have hdrains := drainsAs_of_settled hr hg (.ofPieces [[]]) (hstream ▸ settled_nil rule)
      hs (hstream ▸ hsize) 0
    rwa [hstream] at hdrains
  · have hslice : Bytes.slice stream 0 stream.length = stream := List.take_length
    have hnew := at_new hs hsize hg hroom [Bytes.slice stream 0 stream.length]
    obtain ⟨v, hv, hnext⟩ := hnew.exists_read rfl (Nat.le_refl 0) (List.length_pos_iff.mpr hne)
      (Nat.le_refl _)
    rw [hslice] at hnext
    have hrest : v.source.stream = [] := congrArg Source.streamOf hv.script_eq
    have hwatches : Watches rule size stream stream.length 0 0 [] v := by
      refine ⟨hv.rule_eq, hv.maxSize_eq, hv.sound, hv.skipping, hv.position, ?_, Nat.zero_le _,
        congrArg Source.failuresOf hv.script_eq, fun _ => ?_⟩
      · rw [pending, hv.window_eq, hslice, hrest, List.append_nil, List.drop_zero]
      · rw [hv.window_eq, hslice, Nat.zero_add]
        exact .start
    obtain ⟨t, ht, hleft, hposition⟩ :=
      hwatches.drains hr hg (rule.settledFrom_length stream) hs hsize
    rw [List.drop_zero] at ht hleft
    refine ⟨t, ?_, hleft, ?_⟩
    · rw [Source.failures_ofPieces]
      exact ht.of_next_eq hnext.symm
    · rw [hstream]
      exact hposition

/-- Only a settled stream gives the same in all pieces. -/
theorem settled_of_drainsAlike (hr : rule.Lawful) (hg : rule.Gapless) (hs : rule.Sized size)
    (hsize : stream.length ≤ size) (hroom : stream.length ≤ initialRoom) (h : DrainsAlike rule size stream) :
    rule.Settled stream := by
  intro place read advance token hsees hcut
  obtain ⟨all, rest, halike⟩ := h
  obtain rfl : (rule.split true stream).1 = all :=
    (halike [stream] List.flatten_singleton).entries_eq (drainsAs_piece hr hg hs hsize hroom)
  obtain ⟨pieces, entries, hpieces, hentries, hreach⟩ := exists_pieces hr hg hs hsize hroom hsees
  obtain ⟨s, hs, hleads⟩ := hreach [stream.drop read]
  have hflatten : (pieces ++ [stream.drop read]).flatten = stream := by
    rw [List.flatten_append, hpieces, List.flatten_singleton, List.take_append_drop]
  obtain ⟨t, ht, -⟩ := halike _ hflatten
  -- what is cut early is an entry behind those before it, so it is the next one of the whole stream
  obtain ⟨behind, hitems, hbehind⟩ := hleads _ _ _ ht
  obtain ⟨hnext, -⟩ := hs.next_token hr hg hsize hcut
  obtain ⟨later, rfl, -⟩ := Leads.of_found hnext _ _ _ hbehind
  obtain ⟨more, hsplit, hmore⟩ := Mark.exists_of_tokensFrom_eq hitems
  cases more with
  | nil => cases hmore
  | cons entry more =>
    rw [Mark.tokensFrom, List.singleton_append, List.cons.injEq] at hmore
    obtain rfl := Scanned.token.inj (congrArg Prod.fst hmore.1)
    have hcomplete := Framing.cut_of_split hr hg hsplit
    obtain ⟨⟨-, -, -, hle⟩, hgapless⟩ := hr.advances hcut
    have hplace := hsees.place_le hr
    have hread := hsees.read_le (Nat.zero_le _)
    rw [Bytes.length_slice] at hle
    have hlen : (Bytes.slice stream place (place + advance)).length = advance := by
      rw [Bytes.length_slice]
      omega
    have hsum : entries.flatten.length = place := by
      rw [hentries, List.length_take]
      omega
    rw [hsum, hlen] at hcomplete
    rw [hgapless hg]
    exact hcomplete

/-- **In whatever reads a stream comes, it gives the same entries if what is cut early from it is settled,
and only then.** A pattern that marks where entries begin or end is given, and a stream that is not larger
than the greatest entry. If the stream is settled for the rule of the pattern, every source that brings it
gives the entries of the whole stream, with the same left behind them. If it also fits into the first
buffer, it gives the same in all pieces only if it is settled. -/
theorem drainsAlike_iff_settled {mark : Mark} {pattern : String} {rule : Framing}
    (hrule : mark.compile pattern = .ok rule) {size : Nat} (hs : rule.Sized size) {stream : Bytes}
    (hsize : stream.length ≤ size) :
    (rule.Settled stream → ∀ source place, source.stream = stream →
      DrainsAs rule size source place (rule.split true stream).1 (rule.split true stream).2) ∧
      (stream.length ≤ initialRoom → (DrainsAlike rule size stream ↔ rule.Settled stream)) := by
  obtain ⟨hr, hg⟩ := mark.lawful_of_compile hrule
  have hall : rule.Settled stream → ∀ source place, source.stream = stream →
      DrainsAs rule size source place (rule.split true stream).1 (rule.split true stream).2 := by
    rintro hsettled source place rfl
    exact drainsAs_of_settled hr hg source hsettled hs hsize place
  refine ⟨hall, fun hroom => ⟨settled_of_drainsAlike hr hg hs hsize hroom, fun hsettled => ?_⟩⟩
  refine ⟨_, _, fun pieces hpieces => hall hsettled _ 0 ?_⟩
  rw [Source.stream_ofPieces, hpieces]

/-- A stream with two headings, the first one behind another line. -/
def headings : Source :=
  { script := [.data [0x78], .data [0x0A, 0x41], .interrupted, .data [0x42, 0x0A, 0x41]] }

theorem drainsAlike_iff_settled_of_headings :
    ∃ rule, Mark.first.compile "^A" = .ok rule ∧
      DrainsAs rule 6 headings 0 [[0x78, 0x0A], [0x41, 0x42, 0x0A]] [0x41] ∧
      DrainsAlike rule 6 headings.stream := by
  obtain ⟨rule, hrule⟩ := Mark.exists_compile (by decide +kernel : (Mark.first.compile "^A").isOk)
  have hslices : (Mark.first.compile "^A").map (fun rule =>
      decide (∀ read ≤ headings.stream.length, ∀ place ≤ read,
        rule.cut (Bytes.slice headings.stream place read) false = .needsMore ∨
          rule.cut (Bytes.slice headings.stream place read) false =
            rule.cut (headings.stream.drop place) true)) = .ok true := by
    decide +kernel
  have hsplit : (Mark.first.compile "^A").map (·.split true headings.stream) =
      .ok ([[0x78, 0x0A], [0x41, 0x42, 0x0A]], [0x41]) := by
    decide +kernel
  rw [hrule] at hslices hsplit
  have hsettled : rule.Settled headings.stream :=
    Framing.settled_of_slices (Mark.lawful_of_compile hrule).1
      (of_decide_eq_true (Except.ok.inj hslices))
  obtain ⟨hall, hiff⟩ := drainsAlike_iff_settled hrule
    (Mark.sized_of_compile hrule (by decide) : rule.Sized 6)
    (by decide : headings.stream.length ≤ 6)
  have hsplit : rule.split true headings.stream = ([[0x78, 0x0A], [0x41, 0x42, 0x0A]], [0x41]) :=
    Except.ok.inj hsplit
  have hdrains := hall hsettled headings 0 rfl
  rw [hsplit] at hdrains
  exact ⟨rule, hrule, hdrains, (hiff (by decide)).mpr hsettled⟩

/-- A heading that the end of a read makes: in the first piece `A` is a line of its own, and in the whole
stream it is not. -/
theorem not_drainsAlike_of_torn_heading :
    ∃ rule, Mark.first.compile "^A$" = .ok rule ∧
      DrainsAs rule 5 (.ofPieces [[0x78, 0x0A, 0x41], [0x42, 0x0A]]) 0 [[0x78, 0x0A]]
        [0x41, 0x42, 0x0A] ∧
      DrainsAs rule 5 (.ofPieces [[0x78, 0x0A, 0x41, 0x42, 0x0A]]) 0 []
        [0x78, 0x0A, 0x41, 0x42, 0x0A] ∧
      ¬ DrainsAlike rule 5 [0x78, 0x0A, 0x41, 0x42, 0x0A] := by
  obtain ⟨rule, hrule⟩ := Mark.exists_compile (by decide +kernel : (Mark.first.compile "^A$").isOk)
  have hfirst : (Mark.first.compile "^A$").map (fun rule =>
      let t := (new rule 5 (.ofPieces [[0x78, 0x0A, 0x41], [0x42, 0x0A]]) 0).next
      (t.1, t.2.position)) = .ok (.found (.token [0x78, 0x0A]), 2) := by
    decide +kernel
  have hsecond : (Mark.first.compile "^A$").map (fun rule =>
      let t := (new rule 5 (.ofPieces [[0x78, 0x0A, 0x41], [0x42, 0x0A]]) 0).next.2.next
      (t.1, t.2.takeRemaining.1, t.2.takeRemaining.2.position)) =
        .ok (.exhausted, some [0x41, 0x42, 0x0A], 5) := by
    decide +kernel
  have hwhole : (Mark.first.compile "^A$").map (fun rule =>
      let t := (new rule 5 (.ofPieces [[0x78, 0x0A, 0x41, 0x42, 0x0A]]) 0).next
      (t.1, t.2.takeRemaining.1, t.2.takeRemaining.2.position)) =
        .ok (.exhausted, some [0x78, 0x0A, 0x41, 0x42, 0x0A], 5) := by
    decide +kernel
  rw [hrule] at hfirst hsecond hwhole
  simp only [Except.map, Except.ok.injEq, Prod.mk.injEq] at hfirst hsecond hwhole
  obtain ⟨htoken, hplace⟩ := hfirst
  obtain ⟨hnone, hleft, hstop⟩ := hsecond
  obtain ⟨hnone', hleft', hstop'⟩ := hwhole
  have hfound := Drains.found (Prod.ext htoken rfl) (.exhausted (Prod.ext hnone rfl))
  rw [hplace] at hfound
  have htorn : DrainsAs rule 5 (.ofPieces [[0x78, 0x0A, 0x41], [0x42, 0x0A]]) 0 [[0x78, 0x0A]]
      [0x41, 0x42, 0x0A] :=
    ⟨_, hfound, hleft, hstop⟩
  have hwhole : DrainsAs rule 5 (.ofPieces [[0x78, 0x0A, 0x41, 0x42, 0x0A]]) 0 []
      [0x78, 0x0A, 0x41, 0x42, 0x0A] :=
    ⟨_, .exhausted (Prod.ext hnone' rfl), hleft', hstop'⟩
  refine ⟨rule, hrule, htorn, hwhole, ?_⟩
  rintro ⟨entries, rest, halike⟩
  have hsame := htorn.entries_eq (halike _ rfl)
  rw [hwhole.entries_eq (halike _ rfl)] at hsame
  cases hsame

end Scanner

end LogFollow
