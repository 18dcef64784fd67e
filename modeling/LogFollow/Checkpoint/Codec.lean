import LogFollow.Checkpoint.Basic
import LogFollow.Text.Utf8

/-!
# The stored form of checkpoints

Checkpoints are stored as bytes: numbers take eight bytes, the lowest first; texts, byte strings,
lists and maps are preceded by their length; what may be missing is preceded by a byte that tells
whether it is there. A reader takes a value from the front of the bytes and leaves the rest.
-/

namespace LogFollow

inductive DecodeFault
  /-- The bytes end inside a number, a tag, or a byte string. -/
  | ended
  /-- A text is longer than the bytes that are left. -/
  | shortText
  /-- The byte that tells whether a value is there is neither 0 nor 1. -/
  | badTag (tag : UInt8)
  | notUtf8 (fault : Text.Utf8.Fault)
deriving DecidableEq, Repr

def DecodeFault.message : DecodeFault → String
  | .ended => "io error: unexpected end of file"
  | .shortText => "io error: "
  | .badTag tag => s!"tag for enum is not valid, found {tag.toNat}"
  | .notUtf8 fault => s!"string is not valid utf8: {fault.message}"

namespace Codec

/-- A reader takes a value from the front of the bytes, and gives the bytes that are left. -/
abbrev Reads (α : Type) := Bytes → Except DecodeFault (α × Bytes)

/-- The lowest `width` bytes of a number, the lowest first. -/
def littleEndian : (width : Nat) → Nat → Bytes
  | 0, _ => []
  | width + 1, n => UInt8.ofNat (n % 256) :: littleEndian width (n / 256)

def ofLittleEndian : Bytes → Nat
  | [] => 0
  | b :: rest => b.toNat + 256 * ofLittleEndian rest

/-- Takes `n` bytes, or fails with `fault` where there are fewer. -/
def takeBytes (fault : DecodeFault) (n : Nat) : Reads Bytes := fun bytes =>
  if bytes.reaches n then .ok (bytes.take n, bytes.drop n) else .error fault

/-- A number in eight bytes. -/
def putNumber (n : Nat) : Bytes := littleEndian 8 n

def getNumber : Reads Nat := fun bytes => do
  let (word, rest) ← takeBytes .ended 8 bytes
  pure (ofLittleEndian word, rest)

/-- A byte string after its length. -/
def putBytes (b : Bytes) : Bytes := putNumber b.length ++ b

/-- Reads a byte string; `fault` is the fault of one that is too long. -/
def getBytes (fault : DecodeFault) : Reads Bytes := fun bytes => do
  let (n, rest) ← getNumber bytes
  takeBytes fault n rest

def putText (s : String) : Bytes := putBytes (Bytes.ofString s)

def getText : Reads String := fun bytes => do
  let (b, rest) ← getBytes .shortText bytes
  match Text.Utf8.read b with
  | .ok s => pure (s, rest)
  | .error fault => throw (.notUtf8 fault)

/-- Reads `n` values, one after another. -/
def getTimes {α : Type} (get : Reads α) : (n : Nat) → Reads (List α)
  | 0, bytes => .ok ([], bytes)
  | n + 1, bytes => do
    let (a, rest) ← get bytes
    let (as, rest) ← getTimes get n rest
    pure (a :: as, rest)

/-- The values of a list after its length. -/
def putList {α : Type} (put : α → Bytes) (as : List α) : Bytes :=
  putNumber as.length ++ as.flatMap put

def getList {α : Type} (get : Reads α) : Reads (List α) := fun bytes => do
  let (n, rest) ← getNumber bytes
  getTimes get n rest

def putPair (pair : String × String) : Bytes := putText pair.1 ++ putText pair.2

def getPair : Reads (String × String) := fun bytes => do
  let (key, rest) ← getText bytes
  let (value, rest) ← getText rest
  pure ((key, value), rest)

/-- The attributes in the order of their keys. -/
def putAttributes (a : Attributes) : Bytes := putList putPair a.entries

/-- Reads attributes. Of two values for one key the later one counts. -/
def getAttributes : Reads Attributes := fun bytes => do
  let (pairs, rest) ← getList getPair bytes
  pure (Attributes.ofList pairs, rest)

/-- A value that may be missing. -/
def putOption {α : Type} (put : α → Bytes) : Option α → Bytes
  | none => [0]
  | some a => 1 :: put a

def getOption {α : Type} (get : Reads α) : Reads (Option α)
  | [] => .error .ended
  | tag :: rest =>
    if tag = 0 then .ok (none, rest)
    else if tag = 1 then do
      let (a, rest) ← get rest
      pure (some a, rest)
    else .error (.badTag tag)

def putCheckpoint (c : Checkpoint) : Bytes :=
  putText c.path ++ putBytes c.fingerprint.bytes ++ putNumber c.offset ++
    putNumber c.lastSeenSize ++ putOption putAttributes c.header

def getCheckpoint : Reads Checkpoint := fun bytes => do
  let (path, rest) ← getText bytes
  let (fingerprint, rest) ← getBytes .ended rest
  let (offset, rest) ← getNumber rest
  let (lastSeenSize, rest) ← getNumber rest
  let (header, rest) ← getOption getAttributes rest
  pure ({ path, fingerprint := ⟨fingerprint⟩, offset, lastSeenSize, header }, rest)

end Codec

namespace Checkpoint

def encode (checkpoints : List Checkpoint) : Bytes := Codec.putList Codec.putCheckpoint checkpoints

/-- The checkpoints with a stored form. Bytes after it do not matter. -/
def decode (bytes : Bytes) : Except DecodeFault (List Checkpoint) := do
  let (checkpoints, _) ← Codec.getList Codec.getCheckpoint bytes
  pure checkpoints

end Checkpoint

end LogFollow
