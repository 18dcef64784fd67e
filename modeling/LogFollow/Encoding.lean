import LogFollow.Body
import LogFollow.Framing
import LogFollow.Text.Blank

/-!
# Encodings of files

The configured encoding of a file says what its tokens are: bytes to be handed on untouched, or text
in a character set. It fixes what a newline looks like, and it decodes the tokens. A decoder writes
into a room that it keeps from token to token and doubles as long as its coder asks for more; no token
leaves anything else behind, so each is decoded as if it were the only one.
-/

namespace LogFollow

open Text (Charset)

inductive Encoding
  /-- The bytes are handed on untouched. -/
  | raw
  | charset (set : Charset)
deriving DecidableEq, Repr

namespace Encoding

/-- The encoding of files when none is configured. -/
def standard : Encoding := .charset .utf8

instance : Inhabited Encoding := ⟨standard⟩

/-- The encoding with a configured name. Blanks around the name and the case of its letters do not
matter. ASCII is read as UTF-8, and UTF-16 without a byte order as little endian. -/
def lookup? (name : String) : Option Encoding :=
  let label := Text.toLowerAscii (Text.trim name)
  if label = "" ∨ label = "nop" then some .raw
  else if label ∈ ["utf8", "utf-8", "ascii", "us-ascii"] then some (.charset .utf8)
  else if label ∈ ["utf-16", "utf16"] then some (.charset .utf16le)
  else (Charset.ofLabel? label).map .charset

def name : Encoding → String
  | raw => "nop"
  | charset set => set.name

/-- The number of bytes of a code unit. -/
def codeUnit : Encoding → Nat
  | charset .utf16le | charset .utf16be => 2
  | _ => 1

def ascii (c : UInt8) : Encoding → Bytes
  | charset .utf16le => [c, 0]
  | charset .utf16be => [0, c]
  | _ => [c]

def lines (e : Encoding) : Framing := .newline (e.ascii 0x0A) (e.ascii 0x0D) e.codeUnit

def body (e : Encoding) (token : Bytes) : Body :=
  match e with
  | raw => .bytes token
  | charset set => .text (set.decode token)

end Encoding

/-- A way to write the texts of tokens in a character set, with room for so many bytes. A coder may ask
for more room than a text takes, but not without end. -/
structure Coder (set : Charset) where
  /-- The UTF-8 form of the text of a token, unless the coder asks for more room. -/
  write? : (room : Nat) → (token : Bytes) → Option Bytes
  /-- What is written is the whole text. -/
  eq_of_write? : ∀ {room : Nat} {token written : Bytes},
    write? room token = some written → written = Bytes.ofString (set.decode token)
  /-- A room in which the coder writes the text of a token. -/
  enough : (token : Bytes) → Nat
  /-- So it does in every larger one. -/
  write?_ne_none : ∀ {room : Nat} {token : Bytes}, enough token ≤ room → write? room token ≠ none

def Coder.exact (set : Charset) : Coder set where
  write? room token :=
    let written := Bytes.ofString (set.decode token)
    if written.length ≤ room then some written else none
  eq_of_write? h := by
    dsimp only at h
    split at h
    · exact (Option.some.inj h).symm
    · cases h
  enough token := (Bytes.ofString (set.decode token)).length
  write?_ne_none h := by simp [h]

/-- A decoder: an encoding, and room for the text of a token. -/
structure Decoder where
  encoding : Encoding
  room : Nat
  room_pos : 0 < room

namespace Decoder

def new (encoding : Encoding) : Decoder := ⟨encoding, 4096, by decide⟩

/-- Writes the text of a token, doubling the room until the coder does not ask for more. -/
def writeGrowing {set : Charset} (coder : Coder set) (token : Bytes) (room : Nat)
    (room_pos : 0 < room) : Bytes × { room : Nat // 0 < room } :=
  match h : coder.write? room token with
  | some written => (written, ⟨room, room_pos⟩)
  | none => writeGrowing coder token (2 * room) (by omega)
termination_by coder.enough token - room
decreasing_by
  have : ¬ coder.enough token ≤ room := fun enough => coder.write?_ne_none enough h
  omega

/-- The body that a token stands for, written by the coder of the encoding, and the decoder for the
next token. -/
def decodeWith (coders : (set : Charset) → Coder set) (d : Decoder) (token : Bytes) :
    Body × Decoder :=
  match d.encoding with
  | .raw => (.bytes token, d)
  | .charset set =>
    let (written, ⟨room, room_pos⟩) := writeGrowing (coders set) token d.room d.room_pos
    (.text (Text.Utf8.decode written), { d with room, room_pos })

def decode (d : Decoder) (token : Bytes) : Body × Decoder := d.decodeWith Coder.exact token

def decodeAll (d : Decoder) : List Bytes → List Body
  | [] => []
  | token :: rest =>
    let (body, d) := d.decode token
    body :: d.decodeAll rest

end Decoder

end LogFollow
