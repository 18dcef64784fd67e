import LogFollow.Proofs.Text.LineWise
import LogFollow.Proofs.Text.Utf8

/-!
# One decoder for many tokens

A decoder keeps nothing of a token but the room that it has made for its text. Whatever room it has, it tries
larger and larger ones until its coder has written the whole text, which happens, as a coder does not ask for
more room without end. So a token has the body that its encoding says, whatever tokens came before it.
-/
namespace LogFollow

namespace Text.Utf8

/-- The bytes that end an open sequence give its character. -/
theorem read_of_frontFrom {lo hi : UInt8} {value size missing v n : Nat} {bytes : Bytes}
    (h : frontFrom lo hi value size (missing + 1) bytes = .scalar v n) :
    size < n ∧ automaton.read (.some lo hi (missing + 1) value) bytes =
      charOfCode v :: automaton.read .none (bytes.drop (n - size)) := by
  induction missing generalizing lo hi value size bytes with
  | zero =>
    cases bytes with
    | nil => simp [frontFrom] at h
    | cons b rest =>
      rw [frontFrom] at h
      split at h
      · next hw =>
        simp only [frontFrom, Front.scalar.injEq] at h
        obtain ⟨rfl, rfl⟩ := h
        simp [Automaton.read, Automaton.feed, automaton, hw]
      · cases h
  | succ missing ih =>
    cases bytes with
    | nil => simp [frontFrom] at h
    | cons b rest =>
      rw [frontFrom] at h
      split at h
      · next hw =>
        obtain ⟨hn, hread⟩ := ih h
        have hdrop : (b :: rest).drop (n - size) = rest.drop (n - (size + 1)) := by
          rw [show n - size = n - (size + 1) + 1 by omega, List.drop_succ_cons]
        refine ⟨by omega, ?_⟩
        rw [hdrop, ← hread]
        simp [Automaton.read, Automaton.feed, automaton, hw]
      · cases h

/-- A scalar at the front of the bytes gives its character. -/
theorem read_of_front {bytes : Bytes} {v n : Nat} (h : front bytes = .scalar v n) :
    automaton.read .none bytes = charOfCode v :: automaton.read .none (bytes.drop n) := by
  cases bytes with
  | nil => cases h
  | cons b rest =>
    rw [front] at h
    split at h
    · next hlead =>
      cases h
      simp [Automaton.read, Automaton.feed, automaton, stepLead, hlead]
    · next lo hi missing value hlead =>
      obtain ⟨missing, rfl⟩ : ∃ m, missing = m + 1 := by
        obtain ⟨-, -, hsizes⟩ := lead_eq_some hlead
        apply Nat.exists_eq_add_one_of_ne_zero
        omega
      obtain ⟨hn, hread⟩ := read_of_frontFrom h
      have hdrop : (b :: rest).drop n = rest.drop (n - 1) := by
        rw [show n = n - 1 + 1 by omega, List.drop_succ_cons, Nat.add_sub_cancel]
      rw [hdrop, ← hread]
      simp [Automaton.read, Automaton.feed, automaton, stepLead, hlead]
    · cases h

theorem read_chars (chars : List Char) :
    automaton.read .none (chars.flatMap String.utf8EncodeChar) = chars := by
  induction chars with
  | nil => rfl
  | cons c chars ih =>
    rw [List.flatMap_cons, read_of_front (front_utf8EncodeChar c _), charOfCode_toNat,
      List.drop_left, ih]

/-- In the bytes of a text nothing is malformed. -/
theorem decode_ofString (s : String) : decode (Bytes.ofString s) = s := by
  rw [decode, Automaton.run_eq, Bytes.ofString_eq]
  exact (congrArg String.ofList (read_chars s.toList)).trans s.ofList_toList

end Text.Utf8

/-! ## Making room -/

/-- From one room the coder comes to a final one in finitely many attempts: as long as it asks for more room
it gets twice as much, and in the final one it writes the text. -/
inductive Coder.Settles {set : Text.Charset} (coder : Coder set) (token : Bytes) : Nat → Nat → Prop
  | written {room : Nat} : coder.write? room token = some (Bytes.ofString (set.decode token)) →
      Settles coder token room room
  | doubled {room final : Nat} : coder.write? room token = none →
      Settles coder token (2 * room) final → Settles coder token room final

namespace Coder.Settles

variable {set : Text.Charset} {coder : Coder set} {token : Bytes} {room final : Nat}

theorem le (h : coder.Settles token room final) : room ≤ final := by
  induction h with
  | written => exact Nat.le_refl _
  | doubled _ _ ih => omega

/-- The room grows to less than twice of what is enough. -/
theorem eq_or_lt (h : coder.Settles token room final) :
    final = room ∨ final < 2 * coder.enough token := by
  induction h with
  | written => exact .inl rfl
  | @doubled room final hnone _ ih =>
    have hshort : ¬ coder.enough token ≤ room := fun enough => coder.write?_ne_none enough hnone
    omega

end Coder.Settles

namespace Decoder

theorem writeGrowing_settles {set : Text.Charset} (coder : Coder set) (token : Bytes) (room : Nat)
    (h : 0 < room) :
    (writeGrowing coder token room h).1 = Bytes.ofString (set.decode token) ∧
      coder.Settles token room (writeGrowing coder token room h).2 := by
  fun_induction writeGrowing coder token room h with
  | case1 room hpos written hw =>
    have hwhole := coder.eq_of_write? hw
    exact ⟨hwhole, .written (hwhole ▸ hw)⟩
  | case2 room hpos hnone ih => exact ⟨ih.1, .doubled hnone ih.2⟩

/-! ## Runs of tokens -/

variable (coders : (set : Text.Charset) → Coder set)

/-- Any coder gives what the encoding says, and the decoder stays one of that encoding. -/
theorem decodeWith_eq (d : Decoder) (token : Bytes) :
    (d.decodeWith coders token).1 = d.encoding.body token ∧
      (d.decodeWith coders token).2.encoding = d.encoding := by
  unfold decodeWith Encoding.body
  split
  · next h => simp [h]
  · next set h => simp [h, writeGrowing_settles, Text.Utf8.decode_ofString]

/-- A decoder gives what the encoding says, and stays one of that encoding. -/
theorem decode_eq (d : Decoder) (token : Bytes) :
    (d.decode token).1 = d.encoding.body token ∧ (d.decode token).2.encoding = d.encoding :=
  decodeWith_eq Coder.exact d token

theorem settles_decodeWith {d : Decoder} {set : Text.Charset} (h : d.encoding = .charset set)
    (token : Bytes) :
    (coders set).Settles token d.room (d.decodeWith coders token).2.room := by
  obtain ⟨encoding, room, room_pos⟩ := d
  obtain rfl : encoding = .charset set := h
  exact (writeGrowing_settles (coders set) token room room_pos).2

theorem room_le_decodeWith (d : Decoder) (token : Bytes) :
    d.room ≤ (d.decodeWith coders token).2.room := by
  cases h : d.encoding with
  | raw => simp [decodeWith, h]
  | charset set => exact (settles_decodeWith coders h token).le

/-- The decoder that some tokens leave. -/
def after (d : Decoder) (tokens : List Bytes) : Decoder :=
  tokens.foldl (fun d token => (d.decodeWith coders token).2) d

theorem encoding_after (d : Decoder) (tokens : List Bytes) :
    (d.after coders tokens).encoding = d.encoding := by
  induction tokens generalizing d with
  | nil => rfl
  | cons token rest ih => exact (ih _).trans (d.decodeWith_eq coders token).2

/-- **One decoder serves any tokens.** Whatever coders write the texts and whatever tokens a decoder has had, it
gives the next one the body that a new decoder would give it: the token itself without a character set, and else
its whole text. Its room does not become smaller. A text is written after finitely many doublings, in a room
less than twice as large as is enough, unless the room was large enough before. -/
theorem decodes_each_alone (e : Encoding) (tokens : List Bytes) (token : Bytes) :
    let d := (Decoder.new e).after coders tokens
    (d.decodeWith coders token).1 = ((Decoder.new e).decodeWith coders token).1 ∧
      (d.decodeWith coders token).1 = (match e with
        | .raw => .bytes token
        | .charset set => .text (set.decode token)) ∧
      d.room ≤ (d.decodeWith coders token).2.room ∧
      ∀ set, e = .charset set →
        (coders set).Settles token d.room (d.decodeWith coders token).2.room ∧
        ((d.decodeWith coders token).2.room = d.room ∨
          (d.decodeWith coders token).2.room < 2 * (coders set).enough token) := by
  intro d
  have hencoding : d.encoding = e := encoding_after coders _ tokens
  have hbody : (d.decodeWith coders token).1 = e.body token := by
    rw [(d.decodeWith_eq coders token).1, hencoding]
  refine ⟨?_, ?_, d.room_le_decodeWith coders token, ?_⟩
  · rw [hbody, ((Decoder.new e).decodeWith_eq coders token).1]
    rfl
  · rw [hbody]
    cases e <;> rfl
  · intro set he
    have hsettles := settles_decodeWith coders (hencoding.trans he) token
    exact ⟨hsettles, hsettles.eq_or_lt⟩

/-- A coder that asks for three bytes more than a text takes, room for any further character. -/
def cautious (set : Text.Charset) : Coder set where
  write? room token :=
    if (Bytes.ofString (set.decode token)).length + 3 ≤ room then
      some (Bytes.ofString (set.decode token))
    else none
  eq_of_write? h := by
    split at h
    · exact (Option.some.inj h).symm
    · cases h
  enough token := (Bytes.ofString (set.decode token)).length + 3
  write?_ne_none h := by simp [h]

/-- Half a character in one token does not show in the next one. -/
theorem decodes_each_alone_halved :
    let d := (Decoder.new (.charset .utf16be)).after cautious [[0xD8, 0x3D]]
    (d.decodeWith cautious [0x00, 0x66]).1 = .text "f" ∧
      (cautious .utf16be).Settles [0x00, 0x66] d.room (d.decodeWith cautious [0x00, 0x66]).2.room := by
  intro d
  obtain ⟨-, hbody, -, hsettles⟩ :=
    decodes_each_alone cautious (.charset .utf16be) [[0xD8, 0x3D]] [0x00, 0x66]
  exact ⟨hbody.trans (by decide +kernel), (hsettles .utf16be rfl).1⟩

end Decoder

end LogFollow
