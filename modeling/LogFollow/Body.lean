import LogFollow.Bytes

/-!
# Bodies

The body of an event is a text, or the bytes of the token where the encoding of the file says that
they are no text.
-/

namespace LogFollow

inductive Body
  | text (value : String)
  | bytes (value : Bytes)
deriving DecidableEq, Repr, Inhabited

namespace Body

def text? : Body → Option String
  | text value => some value
  | bytes _ => none

/-- The bytes of the body; those of a text are its UTF-8 form. -/
def toBytes : Body → Bytes
  | text value => Bytes.ofString value
  | bytes value => value

end Body

end LogFollow
