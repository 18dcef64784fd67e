import LogFollow.Proofs.Json.Values

/-!
# Objects are read back

The members of an object are read back one after another, as those of a map or as the fields of
a record. A record is read back from any members that name each field at most once, name all that
must be there, and set the fields from its defaults one by one.
-/
namespace LogFollow.Json

/-! ## Keys -/

theorem opens_writeMember (member : String × List Char) : Opens (writeMember member) :=
  (opens_writeString member.1).append _

/-- The key of the next member, be it the first one or behind a comma. -/
theorem readKey_part (first : Bool) (member : String × List Char) (rest : List Char) :
    readKey first ((if first then writeMember member else ',' :: writeMember member) ++ rest) =
      .ok (some member.1, ':' :: (member.2 ++ rest)) := by
  have hmember : writeMember member ++ rest =
      '"' :: (member.1.toList.flatMap escapeChar ++ '"' :: ':' :: (member.2 ++ rest)) := by
    rw [writeMember, List.append_assoc, writeString_append, List.cons_append]
  have hkey := readStringTail_escaped member.1 (':' :: (member.2 ++ rest))
  cases first with
  | true =>
    rw [if_pos rfl, hmember]
    show (readStringTail _ >>= fun x => pure (some x.1, x.2)) = _
    rw [hkey]
    rfl
  | false =>
    rw [if_neg Bool.false_ne_true, List.cons_append, hmember]
    show (readStringTail _ >>= fun x => pure (some x.1, x.2)) = _
    rw [hkey]
    rfl

theorem readKey_brace (first : Bool) (rest : List Char) :
    readKey first ('\x7d' :: rest) = .ok (none, rest) := rfl

theorem readColon_cons (rest : List Char) : readColon (':' :: rest) = .ok rest := rfl

theorem opens_writeObject (members : List (String × List Char)) : Opens (writeObject members) :=
  ⟨'\x7b', _, rfl, by decide, by decide⟩

theorem writeObject_append (members : List (String × List Char)) (rest : List Char) :
    writeObject members ++ rest =
      '\x7b' :: (following true (members.map writeMember) ++ '\x7d' :: rest) := by
  simp only [writeObject, commaSeparated_eq, List.cons_append, List.append_assoc, List.nil_append]

/-- There are fewer members than characters behind the brace that opens an object. -/
theorem length_members_lt (members : List (String × List Char)) (rest : List Char) :
    members.length < (following true (members.map writeMember) ++ '\x7d' :: rest).length := by
  have hopens : ∀ part ∈ members.map writeMember, Opens part := by
    intro part hpart
    obtain ⟨member, -, rfl⟩ := List.mem_map.mp hpart
    exact opens_writeMember member
  have hlength := length_le_length_following hopens true
  rw [List.length_map] at hlength
  rw [List.length_append, List.length_cons]
  omega

/-! ## Maps -/

variable {α β : Type} {read : Reads α} {write : β → String × List Char} {value : β → α}
  {bs : List β}

/-- **The members of a map are read back one after another.** -/
theorem readMembers_following (h : ∀ b ∈ bs, Recovers read (write b).2 (value b)) {fuel : Nat}
    (hf : bs.length < fuel) (first : Bool) (rest : List Char) :
    readMembers read fuel first
        (following first ((bs.map write).map writeMember) ++ '\x7d' :: rest) =
      .ok (bs.map fun b => ((write b).1, value b), rest) := by
  induction bs generalizing fuel first with
  | nil =>
    obtain ⟨fuel, rfl⟩ := Nat.exists_eq_add_one_of_ne_zero (by omega : fuel ≠ 0)
    rfl
  | cons b bs ih =>
    obtain ⟨hb, hbs⟩ := List.forall_mem_cons.mp h
    obtain ⟨fuel, rfl⟩ := Nat.exists_eq_add_one_of_ne_zero (by omega : fuel ≠ 0)
    have hends := ends_following (c := '\x7d') (by decide) ((bs.map write).map writeMember) rest
    have hlt : bs.length < fuel := by simpa using hf
    have htail := ih hbs hlt false
    rw [List.map_cons, List.map_cons, following, List.append_assoc, readMembers]
    simp only [bind, Except.bind, readKey_part, readColon_cons, hb.reads _ hends, htail]
    rfl

theorem recovers_map (write : β → String × List Char) (value : β → α)
    (h : ∀ b ∈ bs, Recovers read (write b).2 (value b)) :
    Recovers (map read) (writeObject (bs.map write)) (bs.map fun b => ((write b).1, value b)) where
  opens := opens_writeObject _
  reads rest _ := by
    have hlength := length_members_lt (bs.map write) rest
    rw [List.length_map] at hlength
    rw [writeObject_append, map, skipBlanks_cons (by decide)]
    exact readMembers_following h (by omega) true rest

/-! ## Records -/

variable {σ : Type} {shape : Shape σ}

/-- Members take a record to another one, field by field; `seen` holds the names of the fields that
were read before. -/
inductive Shape.Takes (shape : Shape σ) :
    (seen : List String) → σ → List (String × List Char) → σ → Prop
  /-- All fields are there that must be. -/
  | done {seen : List String} {record : σ}
      (complete : ∀ field ∈ shape.fields, field.required = true → field.name ∈ seen) :
      Takes shape seen record [] record
  /-- A member sets a field that was not read before. -/
  | field {seen : List String} {record next final : σ} {field : Field σ} {name : String}
      {written : List Char} {members : List (String × List Char)}
      (named : shape.fields.find? (·.name == name) = some field) (fresh : name ∉ seen)
      (reads : Recovers (field.read record) written next)
      (others : Takes shape (name :: seen) next members final) :
      Takes shape seen record ((name, written) :: members) final

/-- **The fields of a record are read back from its members.** -/
theorem readObject_of_takes {seen : List String} {record final : σ}
    {members : List (String × List Char)} (h : shape.Takes seen record members final) {fuel : Nat}
    (hf : members.length < fuel) (first : Bool) (rest : List Char) :
    shape.readObject fuel first seen record
        (following first (members.map writeMember) ++ '\x7d' :: rest) = .ok (final, rest) := by
  -- The induction is on how the members set the fields; each one takes one unit of fuel.
  induction h generalizing fuel first with
  | @done seen record complete =>
    obtain ⟨fuel, rfl⟩ := Nat.exists_eq_add_one_of_ne_zero (by omega : fuel ≠ 0)
    have hnone : (shape.fields.find? fun field => field.required && !seen.contains field.name) =
        none := by
      rw [List.find?_eq_none]
      intro field hfield
      have hseen := complete field hfield
      simpa using hseen
    rw [List.map_nil, following, List.nil_append, Shape.readObject, readKey_brace]
    simp only [bind, Except.bind, hnone]
    rfl
  | @field seen record next final field name written members named fresh reads _ ih =>
    obtain ⟨fuel, rfl⟩ := Nat.exists_eq_add_one_of_ne_zero (by omega : fuel ≠ 0)
    have hends := ends_following (c := '\x7d') (by decide) (members.map writeMember) rest
    have hlt : members.length < fuel := by simpa using hf
    have htail := ih hlt false
    have hfresh : seen.contains name = false := by simpa using fresh
    rw [List.map_cons, following, List.append_assoc, Shape.readObject, readKey_part]
    simp only [bind, Except.bind, named, hfresh, readColon_cons, reads.reads _ hends]
    exact htail

theorem recovers_record {start final : σ} {members : List (String × List Char)}
    (h : shape.Takes [] start members final) :
    Recovers (shape.read start) (writeObject members) final where
  opens := opens_writeObject members
  reads rest _ := by
    have hlength := length_members_lt members rest
    rw [writeObject_append, Shape.read, skipBlanks_cons (by decide)]
    exact readObject_of_takes h (by omega) true rest

/-- A field is set to what was written for it. -/
theorem recovers_optional {written : List Char} {a : α} (h : Recovers read written a)
    (name : String) (set : σ → α → σ) (record : σ) :
    Recovers ((Field.optional name read set).read record) written (set record a) where
  opens := h.opens
  reads rest hr := by
    simp only [Field.optional, bind, Except.bind, h.reads rest hr]
    rfl

theorem recovers_needed {written : List Char} {a : α} (h : Recovers read written a)
    (name : String) (set : σ → α → σ) (record : σ) :
    Recovers ((Field.needed name read set).read record) written (set record a) :=
  recovers_optional h name set record

/-- A text that holds one value is read whole. -/
theorem readAll_of_recovers {written : List Char} {a : α} (h : Recovers read written a) :
    readAll read (String.ofList written) = .ok a := by
  have hread := h.reads [] .nil
  rw [List.append_nil] at hread
  rw [readAll, String.toList_ofList]
  simp only [bind, Except.bind, hread]
  rfl

end LogFollow.Json
