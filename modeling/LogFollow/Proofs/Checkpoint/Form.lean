import LogFollow.Error
import LogFollow.Proofs.Bytes
import LogFollow.Proofs.Checkpoint.Codec
import LogFollow.Proofs.FileSystem

/-!
# What is read as checkpoints

Each reader of stored bytes accepts the written forms of values that fit, whatever follows them, and
nothing else. So a form that is cut short is refused, and what is read is all that a form says: only the
pairs of a header may be written in more than one way, as their order and all but the last of the pairs
with one key are lost.
-/
namespace LogFollow

namespace Codec

variable {α β : Type}

/-- The reader accepts just the written forms of the values that fit: it reads `value a` from the form of
`a` and leaves what follows it. -/
def Accepts (get : Reads β) (put : α → Bytes) (fits : α → Prop) (value : α → β) : Prop :=
  ∀ bytes b rest, get bytes = .ok (b, rest) ↔ ∃ a, fits a ∧ value a = b ∧ bytes = put a ++ rest

section Accepts

variable {get : Reads β} {put : α → Bytes} {fits : α → Prop} {value : α → β}

theorem Accepts.read (h : Accepts get put fits value) {a : α} (ha : fits a) (rest : Bytes) :
    get (put a ++ rest) = .ok (value a, rest) :=
  (h _ _ _).mpr ⟨a, ha, rfl, rfl⟩

/-- A form that is cut short is refused. -/
theorem Accepts.refuses (h : Accepts get put fits value) {a : α} (ha : fits a) {torn : Bytes}
    (hp : torn <+: put a) (hne : torn ≠ put a) : ∃ fault, get torn = .error fault := by
  cases hget : get torn with
  | error fault => exact ⟨fault, rfl⟩
  | ok read =>
    obtain ⟨b, rest⟩ := read
    obtain ⟨missing, hput⟩ := hp
    obtain ⟨a', ha', -, rfl⟩ := (h _ _ _).mp hget
    -- the shorter form would leave what is missing behind, but the whole form leaves nothing
    have hwhole := h.read ha []
    rw [List.append_nil, ← hput, List.append_assoc, h.read ha'] at hwhole
    have hnil : rest ++ missing = [] := congrArg Prod.snd (Except.ok.inj hwhole)
    rw [(List.append_eq_nil_iff.mp hnil).2, List.append_nil] at hput
    exact absurd hput hne

/-- One reader after another accepts one form after another. -/
theorem Accepts.of_recovers {get : Reads α} (hrec : ∀ a, fits a → Recovers get put a)
    (hform : ∀ {bytes a rest}, get bytes = .ok (a, rest) → fits a ∧ bytes = put a ++ rest) :
    Accepts get put fits id := by
  intro bytes b rest
  constructor
  · intro h
    obtain ⟨hfits, hbytes⟩ := hform h
    exact ⟨b, hfits, rfl, hbytes⟩
  · rintro ⟨a, hfits, rfl, rfl⟩
    exact hrec a hfits rest

theorem Accepts.form {get : Reads α} (h : Accepts get put fits id) {bytes rest : Bytes} {a : α}
    (hget : get bytes = .ok (a, rest)) : fits a ∧ bytes = put a ++ rest := by
  obtain ⟨a, hfits, rfl, hbytes⟩ := (h _ _ _).mp hget
  exact ⟨hfits, hbytes⟩

end Accepts

/-! ## Numbers, byte strings and texts -/

theorem littleEndian_ofLittleEndian (b : Bytes) :
    littleEndian b.length (ofLittleEndian b) = b ∧ ofLittleEndian b < 256 ^ b.length := by
  induction b with
  | nil => exact ⟨rfl, Nat.one_pos⟩
  | cons x b ih =>
    obtain ⟨hb, hlt⟩ := ih
    have hx : x.toNat < 256 := x.toNat_lt
    have hmod : (x.toNat + 256 * ofLittleEndian b) % 256 = x.toNat := by omega
    have hdiv : (x.toNat + 256 * ofLittleEndian b) / 256 = ofLittleEndian b := by omega
    rw [List.length_cons, ofLittleEndian, littleEndian, hmod, hdiv, hb, UInt8.ofNat_toNat,
      Nat.pow_succ]
    exact ⟨rfl, by omega⟩

theorem takeBytes_eq_ok {fault : DecodeFault} {n : Nat} {bytes b rest : Bytes}
    (h : takeBytes fault n bytes = .ok (b, rest)) : b.length = n ∧ bytes = b ++ rest := by
  unfold takeBytes at h
  split at h
  · next hr =>
    obtain ⟨rfl, rfl⟩ := Prod.mk.inj (Except.ok.inj h)
    exact ⟨List.length_take_of_le ((Bytes.reaches_iff _ _).mp hr), (List.take_append_drop n bytes).symm⟩
  · cases h

theorem accepts_number : Accepts getNumber putNumber Word id := by
  refine .of_recovers (fun n hn => recovers_number hn) fun {bytes n rest} h => ?_
  obtain ⟨⟨word, rest'⟩, htake, hn⟩ := bind_ok_iff.mp h
  obtain ⟨rfl, rfl⟩ := Prod.mk.inj (Except.ok.inj hn)
  obtain ⟨hlen, rfl⟩ := takeBytes_eq_ok htake
  obtain ⟨hword, hlt⟩ := littleEndian_ofLittleEndian word
  rw [hlen] at hword hlt
  exact ⟨hlt, by rw [putNumber, hword]⟩

theorem accepts_bytes (fault : DecodeFault) :
    Accepts (getBytes fault) putBytes (fun b => Word b.length) id := by
  refine .of_recovers (fun b hb => recovers_bytes fault hb) fun {bytes b rest} h => ?_
  obtain ⟨⟨n, rest'⟩, hn, hb⟩ := bind_ok_iff.mp h
  obtain ⟨hword, rfl⟩ := accepts_number.form hn
  obtain ⟨rfl, rfl⟩ := takeBytes_eq_ok hb
  exact ⟨hword, by rw [putBytes, List.append_assoc]⟩

theorem accepts_text : Accepts getText putText (fun s => Word (Bytes.ofString s).length) id := by
  refine .of_recovers (fun s hs => recovers_text hs) fun {bytes s rest} h => ?_
  obtain ⟨⟨b, rest'⟩, hb, hs⟩ := bind_ok_iff.mp h
  obtain ⟨hword, rfl⟩ := (accepts_bytes .shortText).form hb
  cases hread : Text.Utf8.read b with
  | error fault =>
    simp only [hread] at hs
    cases hs
  | ok text =>
    simp only [hread] at hs
    obtain ⟨rfl, rfl⟩ := Prod.mk.inj (Except.ok.inj hs)
    obtain rfl := Text.Utf8.eq_ofString_of_read hread
    exact ⟨hword, rfl⟩

/-- What fits of a pair: both texts. -/
def PairFits (pair : String × String) : Prop :=
  Word (Bytes.ofString pair.1).length ∧ Word (Bytes.ofString pair.2).length

theorem accepts_pair : Accepts getPair putPair PairFits id := by
  refine .of_recovers (fun pair hp => recovers_pair hp) fun {bytes pair rest} h => ?_
  obtain ⟨⟨key, rest₁⟩, hkey, h₁⟩ := bind_ok_iff.mp h
  obtain ⟨⟨text, rest₂⟩, htext, h₂⟩ := bind_ok_iff.mp h₁
  obtain ⟨rfl, rfl⟩ := Prod.mk.inj (Except.ok.inj h₂)
  obtain ⟨hkeyFits, rfl⟩ := accepts_text.form hkey
  obtain ⟨htextFits, rfl⟩ := accepts_text.form htext
  exact ⟨⟨hkeyFits, htextFits⟩, by rw [putPair, List.append_assoc]⟩

/-! ## Lists and options -/

section Lists

variable {get : Reads β} {put : α → Bytes} {fits : α → Prop} {value : α → β}

theorem getTimes_eq_ok (h : Accepts get put fits value) {n : Nat} {bytes rest : Bytes} {bs : List β}
    (hget : getTimes get n bytes = .ok (bs, rest)) :
    ∃ as : List α, as.length = n ∧ (∀ a ∈ as, fits a) ∧ as.map value = bs ∧
      bytes = as.flatMap put ++ rest := by
  induction n generalizing bytes bs with
  | zero =>
    obtain ⟨rfl, rfl⟩ := Prod.mk.inj (Except.ok.inj hget)
    exact ⟨[], rfl, fun a ha => absurd ha List.not_mem_nil, rfl, rfl⟩
  | succ n ih =>
    obtain ⟨⟨b, rest₁⟩, hb, hget⟩ := bind_ok_iff.mp hget
    obtain ⟨⟨bs', rest₂⟩, hbs, hget⟩ := bind_ok_iff.mp hget
    obtain ⟨rfl, rfl⟩ := Prod.mk.inj (Except.ok.inj hget)
    obtain ⟨a, hfits, rfl, rfl⟩ := (h _ _ _).mp hb
    obtain ⟨as, rfl, hall, rfl, rfl⟩ := ih hbs
    exact ⟨a :: as, rfl, List.forall_mem_cons.mpr ⟨hfits, hall⟩, rfl,
      by rw [List.flatMap_cons, List.append_assoc]⟩

theorem accepts_list (h : Accepts get put fits value) :
    Accepts (getList get) (putList put) (fun as => Word as.length ∧ ∀ a ∈ as, fits a)
      (List.map value) := by
  intro bytes bs rest
  constructor
  · intro hget
    obtain ⟨⟨n, rest'⟩, hn, htimes⟩ := bind_ok_iff.mp hget
    obtain ⟨hword, rfl⟩ := accepts_number.form hn
    obtain ⟨as, rfl, hall, rfl, rfl⟩ := getTimes_eq_ok h htimes
    exact ⟨as, ⟨hword, hall⟩, rfl, by rw [putList, List.append_assoc]⟩
  · rintro ⟨as, ⟨hword, hall⟩, rfl, rfl⟩
    rw [getList, putList, List.append_assoc, recovers_number hword]
    exact getTimes_flatMap (fun a ha rest => h.read (hall a ha) rest) rest

theorem accepts_option (h : Accepts get put fits value) :
    Accepts (getOption get) (putOption put) (fun o => ∀ a ∈ o, fits a) (Option.map value) := by
  intro bytes b rest
  constructor
  · intro hget
    cases bytes with
    | nil => cases hget
    | cons tag bytes =>
      rw [getOption] at hget
      split at hget
      · next htag =>
        obtain ⟨rfl, rfl⟩ := Prod.mk.inj (Except.ok.inj hget)
        refine ⟨none, fun a ha => ?_, rfl, by rw [htag]; rfl⟩
        cases ha
      · split at hget
        · next htag =>
          obtain ⟨⟨b', rest'⟩, hb, hget⟩ := bind_ok_iff.mp hget
          obtain ⟨rfl, rfl⟩ := Prod.mk.inj (Except.ok.inj hget)
          obtain ⟨a, hfits, rfl, rfl⟩ := (h _ _ _).mp hb
          exact ⟨some a, fun a' ha => Option.some.inj ha ▸ hfits, rfl, by rw [htag]; rfl⟩
        · cases hget
  · rintro ⟨o, hall, rfl, rfl⟩
    cases o with
    | none => rfl
    | some a =>
      rw [putOption, List.cons_append, getOption, if_neg (by decide), if_pos rfl,
        h.read (hall a rfl)]
      rfl

end Lists

/-- Attributes are read from pairs in any order, of which the last one with a key counts. -/
theorem accepts_attributes :
    Accepts getAttributes (putList putPair)
      (fun pairs => Word pairs.length ∧ ∀ pair ∈ pairs, PairFits pair) Attributes.ofList := by
  intro bytes attributes rest
  have hpairs := accepts_list accepts_pair
  constructor
  · intro h
    obtain ⟨⟨pairs, rest'⟩, hget, h⟩ := bind_ok_iff.mp h
    obtain ⟨rfl, rfl⟩ := Prod.mk.inj (Except.ok.inj h)
    obtain ⟨pairs, hfits, rfl, hbytes⟩ := (hpairs _ _ _).mp hget
    exact ⟨pairs, hfits, by rw [List.map_id], hbytes⟩
  · rintro ⟨pairs, hfits, rfl, rfl⟩
    rw [getAttributes, hpairs.read hfits, List.map_id]
    rfl

end Codec

open Codec (Word)

/-! ## Attributes from pairs -/

theorem length_insertPair_le (key value : String) (entries : List (String × String)) :
    (insertPair key value entries).length ≤ entries.length + 1 := by
  induction entries with
  | nil => exact Nat.le_refl _
  | cons first rest ih =>
    unfold insertPair
    split
    · exact Nat.le_refl _
    · split
      · exact Nat.le_succ _
      · exact Nat.succ_le_succ ih

namespace Attributes

theorem foldl_insert_bounds (pairs : List (String × String)) (a : Attributes) :
    (pairs.foldl (fun a pair => a.insert pair.1 pair.2) a).entries.length ≤
        a.entries.length + pairs.length ∧
      ∀ pair ∈ (pairs.foldl (fun a pair => a.insert pair.1 pair.2) a).entries,
        pair ∈ a.entries ∨ pair ∈ pairs := by
  induction pairs generalizing a with
  | nil => exact ⟨Nat.le_refl _, fun pair h => .inl h⟩
  | cons first rest ih =>
    obtain ⟨hlen, hmem⟩ := ih (a.insert first.1 first.2)
    have hinsert : (a.insert first.1 first.2).entries.length ≤ a.entries.length + 1 :=
      length_insertPair_le _ _ _
    refine ⟨?_, fun pair h => ?_⟩
    · rw [List.foldl_cons, List.length_cons]
      omega
    · rcases hmem pair h with h | h
      · rcases mem_insertPair h with rfl | h
        · exact .inr List.mem_cons_self
        · exact .inl h
      · exact .inr (List.mem_cons_of_mem first h)

/-- A map has no more entries than pairs were given, and only these. -/
theorem storable_ofList {pairs : List (String × String)} (hl : Word pairs.length)
    (h : ∀ pair ∈ pairs, Codec.PairFits pair) : (ofList pairs).Storable := by
  obtain ⟨hlen, hmem⟩ := foldl_insert_bounds pairs empty
  refine ⟨Nat.lt_of_le_of_lt hlen ?_, fun pair hp => ?_⟩
  · rwa [show empty.entries.length = 0 from rfl, Nat.zero_add]
  · exact h pair ((hmem pair hp).resolve_left List.not_mem_nil)

end Attributes

/-! ## Checkpoints -/

namespace Checkpoint

/-- A checkpoint as it is written: the pairs of its header in the order in which they stand. -/
structure Written where
  path : String
  fingerprint : Bytes
  offset : Nat
  lastSeenSize : Nat
  header : Option (List (String × String))

namespace Written

/-- The bytes. -/
def form (w : Written) : Bytes :=
  Codec.putText w.path ++ Codec.putBytes w.fingerprint ++ Codec.putNumber w.offset ++
    Codec.putNumber w.lastSeenSize ++ Codec.putOption (Codec.putList Codec.putPair) w.header

/-- The checkpoint that is read from them. -/
def checkpoint (w : Written) : Checkpoint where
  path := w.path
  fingerprint := ⟨w.fingerprint⟩
  offset := w.offset
  lastSeenSize := w.lastSeenSize
  header := w.header.map Attributes.ofList

/-- All numbers fit into eight bytes. -/
structure Fits (w : Written) : Prop where
  path : Word (Bytes.ofString w.path).length
  fingerprint : Word w.fingerprint.length
  offset : Word w.offset
  lastSeenSize : Word w.lastSeenSize
  header : ∀ pairs ∈ w.header, Word pairs.length ∧ ∀ pair ∈ pairs, Codec.PairFits pair

/-- The keys of the header increase. -/
def Ordered (w : Written) : Prop := ∀ pairs ∈ w.header, Increasing pairs

theorem Fits.storable {w : Written} (h : w.Fits) : w.checkpoint.Storable := by
  refine ⟨h.path, h.fingerprint, h.offset, h.lastSeenSize, fun attributes ha => ?_⟩
  obtain ⟨pairs, hp, rfl⟩ := Option.map_eq_some_iff.mp ha
  exact Attributes.storable_ofList (h.header pairs hp).1 (h.header pairs hp).2

/-- A checkpoint whose header was in order is written as it was. -/
theorem putCheckpoint_of_ordered {w : Written} (h : w.Ordered) :
    Codec.putCheckpoint w.checkpoint = w.form := by
  have hheader : Codec.putOption Codec.putAttributes (w.header.map Attributes.ofList) =
      Codec.putOption (Codec.putList Codec.putPair) w.header := by
    cases hw : w.header with
    | none => rfl
    | some pairs =>
      have hentries : (Attributes.ofList pairs).entries = pairs :=
        Attributes.foldl_insert .empty (h pairs hw)
      rw [Option.map_some, Codec.putOption, Codec.putAttributes, hentries]
      rfl
  rw [Codec.putCheckpoint, form, ← hheader]
  rfl

end Written

end Checkpoint

namespace Codec

open Checkpoint (Written)

theorem accepts_checkpoint :
    Accepts getCheckpoint Written.form Written.Fits Written.checkpoint := by
  intro bytes c rest
  have hheaders := accepts_option accepts_attributes
  constructor
  · intro h
    obtain ⟨⟨path, rest₁⟩, hpath, h₁⟩ := bind_ok_iff.mp h
    obtain ⟨⟨fingerprint, rest₂⟩, hfingerprint, h₂⟩ := bind_ok_iff.mp h₁
    obtain ⟨⟨offset, rest₃⟩, hoffset, h₃⟩ := bind_ok_iff.mp h₂
    obtain ⟨⟨lastSeenSize, rest₄⟩, hsize, h₄⟩ := bind_ok_iff.mp h₃
    obtain ⟨⟨header, rest₅⟩, hheader, h₅⟩ := bind_ok_iff.mp h₄
    obtain ⟨rfl, rfl⟩ := Prod.mk.inj (Except.ok.inj h₅)
    obtain ⟨hpathFits, rfl⟩ := accepts_text.form hpath
    obtain ⟨hfingerprintFits, rfl⟩ := (accepts_bytes .ended).form hfingerprint
    obtain ⟨hoffsetFits, rfl⟩ := accepts_number.form hoffset
    obtain ⟨hsizeFits, rfl⟩ := accepts_number.form hsize
    obtain ⟨pairs, hheaderFits, rfl, rfl⟩ := (hheaders _ _ _).mp hheader
    exact ⟨⟨path, fingerprint, offset, lastSeenSize, pairs⟩,
      ⟨hpathFits, hfingerprintFits, hoffsetFits, hsizeFits, hheaderFits⟩, rfl,
      by simp only [Written.form, List.append_assoc]⟩
  · rintro ⟨w, h, rfl, rfl⟩
    rw [getCheckpoint, Written.form]
    simp only [List.append_assoc, bind, Except.bind, recovers_text h.path _,
      recovers_bytes .ended h.fingerprint _, recovers_number h.offset _,
      recovers_number h.lastSeenSize _, hheaders.read h.header rest]
    rfl

end Codec

namespace Checkpoint

/-- The stored form of checkpoints as they are written. -/
def formOf (written : List Written) : Bytes := Codec.putList Written.form written

/-- The bytes begin with the stored form of checkpoints that fit, and go on with the rest. -/
structure StartsWith (bytes : Bytes) (written : List Written) (rest : Bytes) : Prop where
  length : Word written.length
  fits : ∀ w ∈ written, w.Fits
  bytes_eq : bytes = formOf written ++ rest

theorem getList_eq_ok_iff {bytes rest : Bytes} {checkpoints : List Checkpoint} :
    Codec.getList Codec.getCheckpoint bytes = .ok (checkpoints, rest) ↔
      ∃ written, StartsWith bytes written rest ∧ written.map Written.checkpoint = checkpoints := by
  refine ((Codec.accepts_list Codec.accepts_checkpoint) _ _ _).trans ⟨?_, ?_⟩
  · rintro ⟨written, ⟨hl, hw⟩, hvalue, hbytes⟩
    exact ⟨written, ⟨hl, hw, hbytes⟩, hvalue⟩
  · rintro ⟨written, h, hvalue⟩
    exact ⟨written, ⟨h.length, h.fits⟩, hvalue, h.bytes_eq⟩

theorem decode_eq_ok_iff {bytes : Bytes} {checkpoints : List Checkpoint} :
    decode bytes = .ok checkpoints ↔
      ∃ rest, Codec.getList Codec.getCheckpoint bytes = .ok (checkpoints, rest) := by
  rw [decode]
  constructor
  · intro h
    obtain ⟨⟨cs, rest⟩, hget, h'⟩ := bind_ok_iff.mp h
    obtain rfl := Except.ok.inj h'
    exact ⟨rest, hget⟩
  · rintro ⟨rest, hget⟩
    rw [hget]
    rfl

theorem putList_map {α β : Type} {put : α → Bytes} {put' : β → Bytes} {f : α → β}
    {as : List α} (h : ∀ a ∈ as, put' (f a) = put a) :
    Codec.putList put' (as.map f) = Codec.putList put as := by
  have hflat : (as.map fun a => put' (f a)) = as.map put := List.map_congr_left h
  rw [Codec.putList, Codec.putList, List.length_map, List.flatMap_map, List.flatMap_def, hflat,
    ← List.flatMap_def]

/-- Checkpoints whose headers were in order are written as they were. -/
theorem encode_of_ordered {written : List Written} (h : ∀ w ∈ written, w.Ordered) :
    encode (written.map Written.checkpoint) = formOf written :=
  putList_map fun w hw => Written.putCheckpoint_of_ordered (h w hw)

/-- A checkpoint as it is written when it is stored. -/
def toWritten (c : Checkpoint) : Written where
  path := c.path
  fingerprint := c.fingerprint.bytes
  offset := c.offset
  lastSeenSize := c.lastSeenSize
  header := c.header.map Attributes.entries

theorem toWritten_ordered (c : Checkpoint) : c.toWritten.Ordered := by
  intro pairs hp
  obtain ⟨attributes, -, rfl⟩ := Option.map_eq_some_iff.mp hp
  exact attributes.increasing

theorem checkpoint_toWritten (c : Checkpoint) : c.toWritten.checkpoint = c := by
  have hheader : (c.header.map Attributes.entries).map Attributes.ofList = c.header := by
    rw [Option.map_map, show Attributes.ofList ∘ Attributes.entries = id from
      funext Attributes.ofList_entries, Option.map_id, id_eq]
  obtain ⟨path, ⟨fingerprint⟩, offset, lastSeenSize, header⟩ := c
  exact congrArg (Checkpoint.mk path ⟨fingerprint⟩ offset lastSeenSize) hheader

theorem Storable.fits {c : Checkpoint} (h : c.Storable) : c.toWritten.Fits := by
  refine ⟨h.path, h.fingerprint, h.offset, h.lastSeenSize, fun pairs hp => ?_⟩
  obtain ⟨attributes, ha, rfl⟩ := Option.map_eq_some_iff.mp hp
  exact ⟨(h.header attributes ha).size, (h.header attributes ha).texts⟩

theorem map_checkpoint_toWritten (checkpoints : List Checkpoint) :
    (checkpoints.map toWritten).map Written.checkpoint = checkpoints := by
  rw [List.map_map]
  exact List.map_id'' checkpoint_toWritten checkpoints

/-- The stored form of checkpoints is the form of what is written. -/
theorem encode_eq_formOf (checkpoints : List Checkpoint) :
    encode checkpoints = formOf (checkpoints.map toWritten) := by
  have hordered : ∀ w ∈ checkpoints.map toWritten, w.Ordered :=
    List.forall_mem_map.mpr fun c _ => c.toWritten_ordered
  rw [← encode_of_ordered hordered, map_checkpoint_toWritten]

theorem startsWith_encode {checkpoints : List Checkpoint} (hl : Word checkpoints.length)
    (h : ∀ c ∈ checkpoints, c.Storable) (rest : Bytes) :
    StartsWith (encode checkpoints ++ rest) (checkpoints.map toWritten) rest where
  length := by rwa [List.length_map]
  fits := List.forall_mem_map.mpr fun c hc => (h c hc).fits
  bytes_eq := by rw [encode_eq_formOf]

theorem StartsWith.getList {bytes rest : Bytes} {written : List Written}
    (h : StartsWith bytes written rest) :
    Codec.getList Codec.getCheckpoint bytes = .ok (written.map Written.checkpoint, rest) :=
  getList_eq_ok_iff.mpr ⟨written, h, rfl⟩

/-- What is decoded can be stored. -/
theorem StartsWith.storable {bytes rest : Bytes} {written : List Written}
    (h : StartsWith bytes written rest) :
    Word (written.map Written.checkpoint).length ∧
      ∀ c ∈ written.map Written.checkpoint, c.Storable :=
  ⟨by rw [List.length_map]; exact h.length,
    List.forall_mem_map.mpr fun w hw => (h.fits w hw).storable⟩

/-- A stored form that is cut short is refused. -/
theorem decode_torn {checkpoints : List Checkpoint} (hl : Word checkpoints.length)
    (h : ∀ c ∈ checkpoints, c.Storable) {torn : Bytes} (hp : torn <+: encode checkpoints)
    (hne : torn ≠ encode checkpoints) : ∃ fault, decode torn = .error fault := by
  have hstarts := startsWith_encode hl h []
  rw [encode_eq_formOf] at hp hne
  obtain ⟨fault, hfault⟩ := (Codec.accepts_list Codec.accepts_checkpoint).refuses
    ⟨hstarts.length, hstarts.fits⟩ hp hne
  refine ⟨fault, ?_⟩
  rw [decode, hfault]
  rfl

/-- **Nothing is lost in the stored form of checkpoints, and no part of it is taken for the whole.**
Checkpoints are decoded from their stored form, whatever follows it, and from no strict prefix of it.
Bytes from which checkpoints are decoded start with the form of just what was decoded, but for the order
of the pairs in a header and for pairs whose key comes again; where the keys of each header increase,
encoding the checkpoints gives the bytes that were read. -/
theorem stored_without_loss :
    (∀ checkpoints : List Checkpoint, Word checkpoints.length → (∀ c ∈ checkpoints, c.Storable) →
      decode (encode checkpoints) = .ok checkpoints ∧
        (∀ more, decode (encode checkpoints ++ more) = .ok checkpoints) ∧
        ∀ torn, torn <+: encode checkpoints → torn ≠ encode checkpoints →
          ∃ fault, (decode torn).mapError Error.serialization = .error (.serialization fault)) ∧
      ∀ bytes checkpoints, decode bytes = .ok checkpoints →
        decode (encode checkpoints) = .ok checkpoints ∧
          (∃ written rest, StartsWith bytes written rest) ∧
          ∀ written rest, StartsWith bytes written rest →
            checkpoints = written.map Written.checkpoint ∧
              Codec.getList Codec.getCheckpoint bytes = .ok (checkpoints, rest) ∧
              ((∀ w ∈ written, w.Ordered) → encode checkpoints ++ rest = bytes) := by
  refine ⟨fun checkpoints hl h => ⟨decode_encode hl h, fun more => ?_, fun torn hp hne => ?_⟩,
    fun bytes checkpoints hdecode => ?_⟩
  · have hget := (startsWith_encode hl h more).getList
    rw [map_checkpoint_toWritten] at hget
    exact decode_eq_ok_iff.mpr ⟨more, hget⟩
  · obtain ⟨fault, hfault⟩ := decode_torn hl h hp hne
    exact ⟨fault, by rw [hfault]; rfl⟩
  · obtain ⟨rest, hget⟩ := decode_eq_ok_iff.mp hdecode
    obtain ⟨written, hstarts, rfl⟩ := getList_eq_ok_iff.mp hget
    refine ⟨decode_encode hstarts.storable.1 hstarts.storable.2, ⟨written, rest, hstarts⟩, ?_⟩
    intro written' rest' hstarts'
    have hsame := hstarts'.getList
    rw [hget] at hsame
    obtain ⟨hvalues, rfl⟩ := Prod.mk.inj (Except.ok.inj hsame)
    refine ⟨hvalues, hget, fun hordered => ?_⟩
    rw [hvalues, encode_of_ordered hordered, hstarts'.bytes_eq]

/-- Two checkpoints, one of them with a header. -/
def twoLogs : List Checkpoint :=
  [⟨"a.log", ⟨[97, 10]⟩, 2, 2, none⟩,
    ⟨"b.log", ⟨[35, 97]⟩, 5, 9, some (.ofList [("Version", "1.0"), ("Fields", "date")])⟩]

/-- The form of a checkpoint whose header has a key twice and is not in order. -/
def disordered : List Written :=
  [⟨"a.log", [97], 1, 1, some [("b", "1"), ("a", "2"), ("b", "3")]⟩]

theorem stored_without_loss_of_twoLogs :
    (decode (encode twoLogs ++ [1, 2]) = .ok twoLogs ∧
        ∃ fault, (decode ((encode twoLogs).take 100)).mapError Error.serialization =
          .error (.serialization fault)) ∧
      decode (formOf disordered ++ [7]) =
          .ok [⟨"a.log", ⟨[97]⟩, 1, 1, some (.ofList [("a", "2"), ("b", "3")])⟩] ∧
        ∃ written rest, StartsWith (formOf disordered ++ [7]) written rest := by
  have hdecode : decode (formOf disordered ++ [7]) =
      .ok [⟨"a.log", ⟨[97]⟩, 1, 1, some (.ofList [("a", "2"), ("b", "3")])⟩] := by decide +kernel
  obtain ⟨-, hmore, htorn⟩ := stored_without_loss.1 twoLogs (by decide +kernel) (by decide +kernel)
  exact ⟨⟨hmore [1, 2], htorn _ (List.take_prefix 100 _) (by decide +kernel)⟩, hdecode,
    (stored_without_loss.2 _ _ hdecode).2.1⟩

end Checkpoint

end LogFollow
