import LogFollow.FileHandle

/-!
# Fingerprints

A file is recognised by its first bytes. Two fingerprints match when the shorter one is the beginning
of the longer one: the file may have grown since the shorter one was taken. A fingerprint without
bytes recognises nothing.
-/

namespace LogFollow

structure Fingerprint where
  bytes : Bytes
deriving DecidableEq, Repr, Inhabited

namespace Fingerprint

/-- The fingerprint of a file with the given content, of at most `limit` bytes. -/
def ofContent (limit : Nat) (content : Bytes) : Fingerprint := ⟨content.take limit⟩

/-- Takes the fingerprint of an open file. The cursor is put back to where it was. -/
def capture (file : FileHandle) (limit : Nat) : Fingerprint × FileHandle :=
  let (bytes, read) := (file.seek 0).read limit
  (⟨bytes⟩, read.seek file.cursor)

def size (f : Fingerprint) : Nat := f.bytes.length

def isEmpty (f : Fingerprint) : Bool := f.bytes.isEmpty

/-- Whether `g` is a beginning of `f`, and not empty. -/
def startsWith (f g : Fingerprint) : Bool := !g.isEmpty && g.bytes.isPrefixOf f.bytes

/-- Whether one of the fingerprints is a beginning of the other, and neither is empty. -/
def matchesWith (f g : Fingerprint) : Bool := f.startsWith g || g.startsWith f

/-- Adds bytes up to `limit` bytes in all. -/
def append (f : Fingerprint) (limit : Nat) (more : Bytes) : Fingerprint :=
  ⟨f.bytes ++ more.take (limit - f.size)⟩

end Fingerprint

end LogFollow
