import LogFollow.Json.Tree
import LogFollow.Proofs.Json.Digits

/-!
# What is written is read back

A reader takes back what was written, and leaves what stands behind it. Written values begin with
a character that is neither a blank nor a mark between values, and what may stand behind one is the
end of the text or such a mark. This holds of strings, with all their escapes, of numbers, and of
lists of values that are read back. No control stands in what is written, as strings escape it.
-/
namespace LogFollow.Json

/-! ## Marks and blanks -/

/-- Whether a character stands between values or closes a list or an object. -/
def isMark (c : Char) : Bool := c == ',' || c == ']' || c == '\x7d'

/-- A value ends here: the text does, or goes on with a mark. -/
def Ends (rest : List Char) : Prop := ∀ c ∈ rest.head?, isMark c = true

/-- The text begins with a character that can open a value. -/
def Opens (text : List Char) : Prop :=
  ∃ c tail, text = c :: tail ∧ isBlank c = false ∧ isMark c = false

theorem Ends.nil : Ends [] := by
  simp [Ends]

theorem Ends.cons {c : Char} (h : isMark c = true) (rest : List Char) : Ends (c :: rest) := by
  simpa [Ends] using h

theorem Ends.number {rest : List Char} (h : Ends rest) : EndsNumber rest := by
  have hmarks : ∀ c, isMark c = true → isDigit c = false ∧ c ≠ '.' ∧ c ≠ 'e' ∧ c ≠ 'E' := by
    intro c hc
    simp only [isMark, Bool.or_eq_true, beq_iff_eq] at hc
    rcases hc with (rfl | rfl) | rfl <;> decide
  exact ⟨fun c hc => (hmarks c (h c hc)).1, fun c hc => (hmarks c (h c hc)).2⟩

theorem Opens.append {text : List Char} (h : Opens text) (rest : List Char) :
    Opens (text ++ rest) := by
  obtain ⟨c, tail, rfl, hblank, hmark⟩ := h
  exact ⟨c, tail ++ rest, rfl, hblank, hmark⟩

theorem skipBlanks_cons {c : Char} (h : isBlank c = false) (rest : List Char) :
    skipBlanks (c :: rest) = c :: rest := by
  rw [skipBlanks, List.dropWhile_cons_of_neg (by simp [h])]

/-- The reader takes back what was written for a value, whatever may stand behind it. -/
structure Recovers {α : Type} (read : Reads α) (written : List Char) (a : α) : Prop where
  opens : Opens written
  reads : ∀ rest, Ends rest → read (written ++ rest) = .ok (a, rest)

/-! ## Strings -/

theorem hexValue?_hexDigit : ∀ n < 16, hexValue? (hexDigit n) = some n := by decide

theorem utf8Size_hexDigit : ∀ n < 16, (hexDigit n).utf8Size = 1 := by decide

/-- The four digits of an escaped control. -/
theorem readHex_control {n : Nat} (h : n < 0x20) (rest : List Char) :
    readHex ('0' :: '0' :: hexDigit (n / 16) :: hexDigit (n % 16) :: rest) = .ok (n, rest) := by
  have hhigh : n / 16 < 16 := by omega
  have hlow : n % 16 < 16 := by omega
  have hsize : byteSize ['0', '0', hexDigit (n / 16), hexDigit (n % 16)] = 4 := by
    simp only [byteSize, List.foldl_cons, List.foldl_nil, utf8Size_hexDigit _ hhigh,
      utf8Size_hexDigit _ hlow]
    rfl
  have hzero : hexValue? '0' = some 0 := by decide
  simp only [readHex, List.take_succ_cons, List.take_zero, hsize, Nat.lt_irrefl, if_false, hzero,
    hexValue?_hexDigit _ hhigh, hexValue?_hexDigit _ hlow]
  congr 2
  omega

theorem readCode_control {c : Char} (h : c.toNat < 0x20) (rest : List Char) :
    readCode ('0' :: '0' :: hexDigit (c.toNat / 16) :: hexDigit (c.toNat % 16) :: rest) =
      .ok (c, rest) := by
  have hlow : ¬ (0xDC00 ≤ c.toNat ∧ c.toNat ≤ 0xDFFF) := by omega
  have hbasic : c.toNat < 0xD800 ∨ 0xDFFF < c.toNat := by omega
  rw [readCode, readHex_control h]
  simp only [bind, Except.bind, if_neg hlow, if_pos hbasic, Char.ofNat_toNat]
  rfl

/-- The forms that a character may have in a string. -/
inductive Escape (c : Char) : List Char → Prop
  /-- An escape of one letter. -/
  | letter {e : Char} (code : escaped? e = some c) (short : e ≠ 'u') (visible : 0x20 ≤ e.toNat) :
      Escape c ['\\', e]
  /-- An escape with digits. -/
  | control (low : c.toNat < 0x20) :
      Escape c ['\\', 'u', '0', '0', hexDigit (c.toNat / 16), hexDigit (c.toNat % 16)]
  /-- The character itself. -/
  | plain (quote : c ≠ '"') (slash : c ≠ '\\') (visible : ¬ c.toNat < 0x20) : Escape c [c]

theorem escape_escapeChar (c : Char) : Escape c (escapeChar c) := by
  unfold escapeChar
  -- The seven characters with an escape of one letter.
  iterate 7
    split
    · subst c
      exact .letter rfl (by decide) (by decide)
  split
  · next low => exact .control low
  · next quote slash _ _ _ _ _ visible => exact .plain quote slash visible

/-- A character is taken back from any of its forms. -/
theorem readCharacters_escape {c : Char} {form : List Char} (h : Escape c form) (done : List Char)
    (fuel : Nat) (rest : List Char) :
    readCharacters done (fuel + 1) (form ++ rest) = readCharacters (c :: done) fuel rest := by
  cases h with
  | @letter e code short visible =>
    simp only [List.cons_append, List.nil_append]
    rw [readCharacters]
    · simp only [code]
    · exact short
  | control low =>
    simp only [List.cons_append, List.nil_append, readCharacters, readCode_control low]
    rfl
  | plain quote slash visible =>
    rw [List.singleton_append, readCharacters, if_neg visible]
    · exact quote
    · exact fun hc _ => slash hc
    · exact fun _ hc _ => slash hc
    · exact fun _ _ hc _ => slash hc

theorem Escape.ne_nil {c : Char} {form : List Char} (h : Escape c form) : form ≠ [] := by
  cases h <;> exact List.cons_ne_nil _ _

/-- There are no more characters than their forms have. -/
theorem length_le_length_escaped (chars : List Char) :
    chars.length ≤ (chars.flatMap escapeChar).length := by
  induction chars with
  | nil => exact Nat.le_refl _
  | cons c chars ih =>
    have hpos := List.length_pos_iff.mpr (escape_escapeChar c).ne_nil
    rw [List.flatMap_cons, List.length_append, List.length_cons]
    omega

theorem readCharacters_escaped (chars : List Char) {fuel : Nat} (hf : chars.length < fuel)
    (done rest : List Char) :
    readCharacters done fuel (chars.flatMap escapeChar ++ '"' :: rest) =
      .ok (String.ofList (done.reverse ++ chars), rest) := by
  induction chars generalizing fuel done with
  | nil =>
    obtain ⟨fuel, rfl⟩ := Nat.exists_eq_add_one_of_ne_zero (by omega : fuel ≠ 0)
    rw [List.flatMap_nil, List.nil_append, readCharacters, List.append_nil]
  | cons c chars ih =>
    obtain ⟨fuel, rfl⟩ := Nat.exists_eq_add_one_of_ne_zero (by omega : fuel ≠ 0)
    rw [List.flatMap_cons, List.append_assoc, readCharacters_escape (escape_escapeChar c),
      ih (by simpa using hf), List.reverse_cons, List.append_assoc, List.singleton_append]

/-- **A string is read back behind its opening quote, whatever its characters.** -/
theorem readStringTail_escaped (s : String) (rest : List Char) :
    readStringTail (s.toList.flatMap escapeChar ++ '"' :: rest) = .ok (s, rest) := by
  have hlength := length_le_length_escaped s.toList
  have hfuel : s.toList.length < (s.toList.flatMap escapeChar ++ '"' :: rest).length + 1 := by
    rw [List.length_append]
    omega
  rw [readStringTail, readCharacters_escaped s.toList hfuel, List.reverse_nil, List.nil_append,
    String.ofList_toList]

/-- A written string is its opening quote, its characters, and its closing quote. -/
theorem writeString_append (s : String) (rest : List Char) :
    writeString s ++ rest = '"' :: (s.toList.flatMap escapeChar ++ '"' :: rest) := by
  simp only [writeString, List.cons_append, List.append_assoc, List.nil_append]

theorem opens_writeString (s : String) : Opens (writeString s) :=
  ⟨'"', _, rfl, by decide, by decide⟩

theorem recovers_string (wanted : String) (s : String) :
    Recovers (readString wanted) (writeString s) s where
  opens := opens_writeString s
  reads rest _ := by
    rw [writeString_append, readString, skipBlanks_cons (by decide)]
    exact readStringTail_escaped s rest

/-- A string names one of several values. -/
theorem recovers_choice {α : Type} {choices : List (String × α)} {name : String} {a : α}
    (h : choices.lookup name = some a) : Recovers (choice choices) (writeString name) a where
  opens := opens_writeString name
  reads rest _ := by
    rw [writeString_append, choice, skipBlanks_cons (by decide)]
    simp only [bind, Except.bind, readStringTail_escaped, named, h]
    rfl

/-- A value that may be `null` is read as it is. -/
theorem recovers_orNull {α : Type} {read : Reads α} {written : List Char} {a : α}
    (h : Recovers read written a) (hn : written.head? ≠ some 'n') :
    Recovers (orNull read) written (some a) where
  opens := h.opens
  reads rest hr := by
    have hread := h.reads rest hr
    obtain ⟨c, tail, rfl, hblank, hmark⟩ := h.opens
    have hc : c ≠ 'n' := by simpa using hn
    rw [List.cons_append] at hread ⊢
    unfold orNull
    rw [skipBlanks_cons hblank]
    split
    · next heq => exact absurd (List.cons.inj heq).1 hc
    · simp only [bind, Except.bind, hread]
      rfl

/-! ## Lists -/

/-- Parts as they follow one another: with a comma before each of them, or before all but the first
one. -/
def following (first : Bool) : List (List Char) → List Char
  | [] => []
  | part :: rest => (if first then part else ',' :: part) ++ following false rest

theorem commaSeparated_eq (parts : List (List Char)) :
    commaSeparated parts = following true parts := by
  induction parts with
  | nil => rfl
  | cons part rest ih =>
    cases rest with
    | nil => simp [commaSeparated, following]
    | cons next rest =>
      rw [commaSeparated, ih]
      · simp [following]
      · exact List.cons_ne_nil _ _

/-- Behind a part stands a comma, or the mark that closes the parts. -/
theorem ends_following {c : Char} (hc : isMark c = true) (parts : List (List Char))
    (rest : List Char) : Ends (following false parts ++ c :: rest) := by
  cases parts with
  | nil => exact .cons hc rest
  | cons part parts => exact .cons (by decide) _

/-- There are no more parts than characters if no part is empty. -/
theorem length_le_length_following {parts : List (List Char)} (h : ∀ part ∈ parts, Opens part)
    (first : Bool) : parts.length ≤ (following first parts).length := by
  induction parts generalizing first with
  | nil => exact Nat.zero_le _
  | cons part rest ih =>
    obtain ⟨hpart, hrest⟩ := List.forall_mem_cons.mp h
    have htail := ih hrest false
    obtain ⟨c, tail, rfl, -⟩ := hpart
    rw [following, List.length_append, List.length_cons]
    cases first <;> simp <;> omega

variable {α β : Type} {read : Reads α} {write : β → List Char} {value : β → α} {bs : List β}

/-- The next element of a list, be it the first one or behind a comma, is read by its reader. -/
theorem readElements_part {part : List Char} (h : Opens part) (fuel : Nat) (first : Bool)
    (rest : List Char) :
    readElements read (fuel + 1) first ((if first then part else ',' :: part) ++ rest) =
      (do
        let (a, rest) ← read (part ++ rest)
        let (as, rest) ← readElements read fuel false rest
        pure (a :: as, rest)) := by
  obtain ⟨c, tail, rfl, hblank, hmark⟩ := h
  have hc : c ≠ ']' := by
    rintro rfl
    exact absurd hmark (by decide)
  rw [readElements]
  cases first with
  | true =>
    simp only [if_true, List.cons_append, skipBlanks_cons hblank]
  | false =>
    simp only [Bool.false_eq_true, if_false, List.cons_append,
      skipBlanks_cons (show isBlank ',' = false by decide)]
    split
    · next heq => exact absurd heq (List.cons_ne_nil _ _)
    · next heq => exact absurd (List.cons.inj heq).1 (by decide)
    · next heq =>
      obtain ⟨rfl, rfl⟩ := List.cons.inj heq
      simp only [if_true, skipBlanks_cons hblank]
      split
      · next heq => exact absurd (List.cons.inj heq).1 hc
      · rfl

/-- **The elements of a list are read back one after another.** -/
theorem readElements_following (h : ∀ b ∈ bs, Recovers read (write b) (value b)) {fuel : Nat}
    (hf : bs.length < fuel) (first : Bool) (rest : List Char) :
    readElements read fuel first (following first (bs.map write) ++ ']' :: rest) =
      .ok (bs.map value, rest) := by
  induction bs generalizing fuel first with
  | nil =>
    obtain ⟨fuel, rfl⟩ := Nat.exists_eq_add_one_of_ne_zero (by omega : fuel ≠ 0)
    rfl
  | cons b bs ih =>
    obtain ⟨hb, hbs⟩ := List.forall_mem_cons.mp h
    obtain ⟨fuel, rfl⟩ := Nat.exists_eq_add_one_of_ne_zero (by omega : fuel ≠ 0)
    -- Behind the element stands a comma or the bracket, where its reader stops.
    have hread := hb.reads _ (ends_following (c := ']') (by decide) (bs.map write) rest)
    have hlt : bs.length < fuel := by simpa using hf
    have htail := ih hbs hlt false
    rw [List.map_cons, following, List.append_assoc, readElements_part hb.opens]
    simp only [bind, Except.bind, hread, htail]
    rfl

theorem opens_writeList (parts : List (List Char)) : Opens (writeList parts) :=
  ⟨'[', _, rfl, by decide, by decide⟩

theorem writeList_append (parts : List (List Char)) (rest : List Char) :
    writeList parts ++ rest = '[' :: (following true parts ++ ']' :: rest) := by
  simp only [writeList, commaSeparated_eq, List.cons_append, List.append_assoc, List.nil_append]

/-- A written list is read back behind its bracket. -/
theorem readElements_writeList (h : ∀ b ∈ bs, Recovers read (write b) (value b))
    (rest : List Char) :
    readElements read ((following true (bs.map write) ++ ']' :: rest).length + 1) true
      (following true (bs.map write) ++ ']' :: rest) = .ok (bs.map value, rest) := by
  have hopens : ∀ part ∈ bs.map write, Opens part := by
    intro part hpart
    obtain ⟨b, hb, rfl⟩ := List.mem_map.mp hpart
    exact (h b hb).opens
  have hlength := length_le_length_following hopens true
  apply readElements_following h
  rw [List.length_map] at hlength
  rw [List.length_append]
  omega

/-! ## Values of any kind -/

theorem recovers_tree_string (depth : Nat) (s : String) :
    Recovers (Tree.read depth) (writeString s) (.string s) where
  opens := opens_writeString s
  reads rest _ := by
    unfold Tree.read
    simp only [writeString_append, skipBlanks_cons (show isBlank '"' = false by decide),
      readStringTail_escaped]
    rfl

theorem recovers_tree_list {depth : Nat} {write : β → List Char} {value : β → Tree}
    (h : ∀ b ∈ bs, Recovers (Tree.read depth) (write b) (value b)) :
    Recovers (Tree.read (depth + 1)) (writeList (bs.map write)) (.list (bs.map value)) where
  opens := opens_writeList _
  reads rest _ := by
    unfold Tree.read
    simp only [writeList_append, skipBlanks_cons (show isBlank '[' = false by decide),
      readElements_writeList h]
    rfl

/-- A digit opens a number, and no value of another kind. -/
theorem recovers_tree_number (depth : Nat) {n : Nat} (hn : n ≤ maxWord) :
    Recovers (Tree.read depth) (writeNat n) (.number (.unsigned n)) := by
  obtain ⟨c, digits, hw, hc⟩ := exists_writeNat n
  have hne (d : Char) (hd : isDigit d = false) : c ≠ d := by
    rintro rfl
    exact absurd hc (by simp [hd])
  have hblank : isBlank c = false := by
    simp only [isBlank, Bool.or_eq_false_iff, beq_eq_false_iff_ne]
    exact ⟨⟨⟨hne ' ' rfl, hne '\n' rfl⟩, hne '\t' rfl⟩, hne '\r' rfl⟩
  have hmark : isMark c = false := by
    simp only [isMark, Bool.or_eq_false_iff, beq_eq_false_iff_ne]
    exact ⟨⟨hne ',' rfl, hne ']' rfl⟩, hne '\x7d' rfl⟩
  constructor
  · exact ⟨c, digits, hw, hblank, hmark⟩
  · intro rest hr
    have hread := readNumber_writeNat hn hr.number
    rw [hw, List.cons_append] at hread ⊢
    unfold Tree.read
    simp only [skipBlanks_cons hblank]
    split
    · next heq => exact absurd heq (List.cons_ne_nil _ _)
    · next heq => exact absurd (List.cons.inj heq).1 (hne 'n' rfl)
    · next heq => exact absurd (List.cons.inj heq).1 (hne 't' rfl)
    · next heq => exact absurd (List.cons.inj heq).1 (hne 'f' rfl)
    · next heq => exact absurd (List.cons.inj heq).1 (hne '"' rfl)
    · next heq => exact absurd (List.cons.inj heq).1 (hne '[' rfl)
    · next heq => exact absurd (List.cons.inj heq).1 (hne '\x7b' rfl)
    · next heq =>
      obtain ⟨rfl, rfl⟩ := List.cons.inj heq
      rw [if_pos (.inl hc), hread]
      rfl

/-! ## Controls -/

/-- There are no controls in a text. -/
def Printable (text : List Char) : Prop := ∀ c ∈ text, 0x20 ≤ c.toNat

theorem Printable.cons {c : Char} {text : List Char} (hc : 0x20 ≤ c.toNat) (h : Printable text) :
    Printable (c :: text) := List.forall_mem_cons.mpr ⟨hc, h⟩

theorem Printable.append {a b : List Char} (ha : Printable a) (hb : Printable b) :
    Printable (a ++ b) := List.forall_mem_append.mpr ⟨ha, hb⟩

theorem Printable.nil : Printable [] := List.forall_mem_nil _

theorem le_toNat_hexDigit : ∀ n < 16, 0x20 ≤ (hexDigit n).toNat := by decide

/-- A control is escaped, so that none stands in a string. -/
theorem Escape.printable {c : Char} {form : List Char} (h : Escape c form) : Printable form := by
  cases h with
  | letter code short visible => exact .cons (by decide) (.cons visible .nil)
  | control low =>
    have hhigh := le_toNat_hexDigit (c.toNat / 16) (by omega)
    have hlow := le_toNat_hexDigit (c.toNat % 16) (by omega)
    exact .cons (by decide) (.cons (by decide) (.cons (by decide) (.cons (by decide)
      (.cons hhigh (.cons hlow .nil)))))
  | plain quote slash visible => exact .cons (Nat.not_lt.mp visible) .nil

theorem printable_writeString (s : String) : Printable (writeString s) := by
  have hcharacters : Printable (s.toList.flatMap escapeChar) := by
    intro d hd
    obtain ⟨c, -, hc⟩ := List.mem_flatMap.mp hd
    exact (escape_escapeChar c).printable d hc
  rw [writeString]
  exact (Printable.cons (by decide) hcharacters).append (.cons (by decide) .nil)

theorem printable_writeNat (n : Nat) : Printable (writeNat n) := by
  intro c hc
  have hrange := toNat_of_isDigit (isDigit_of_mem_writeNat hc)
  omega

theorem printable_commaSeparated {parts : List (List Char)} (h : ∀ part ∈ parts, Printable part) :
    Printable (commaSeparated parts) := by
  induction parts with
  | nil => exact .nil
  | cons part parts ih =>
    obtain ⟨hpart, hparts⟩ := List.forall_mem_cons.mp h
    cases parts with
    | nil => exact hpart
    | cons next parts => exact hpart.append (.cons (by decide) (ih hparts))

theorem printable_writeList {parts : List (List Char)} (h : ∀ part ∈ parts, Printable part) :
    Printable (writeList parts) :=
  (Printable.cons (by decide) (printable_commaSeparated h)).append (.cons (by decide) .nil)

theorem printable_writeObject {members : List (String × List Char)}
    (h : ∀ member ∈ members, Printable member.2) : Printable (writeObject members) := by
  have hmembers : ∀ part ∈ members.map writeMember, Printable part := by
    intro part hpart
    obtain ⟨member, hmember, rfl⟩ := List.mem_map.mp hpart
    exact (printable_writeString member.1).append (.cons (by decide) (h member hmember))
  exact (Printable.cons (by decide) (printable_commaSeparated hmembers)).append
    (.cons (by decide) .nil)

end LogFollow.Json
