import LogFollow.Bytes

/-!
# Open files

An open file is its content and a cursor, the index of the byte that the next read starts with. The
cursor may stand past the end, where a read gives nothing.
-/

namespace LogFollow

structure FileHandle where
  content : Bytes
  cursor : Nat := 0
deriving DecidableEq, Repr

namespace FileHandle

def seek (h : FileHandle) (index : Nat) : FileHandle := { h with cursor := index }

/-- Reads at most `n` bytes at the cursor, which moves past them. -/
def read (h : FileHandle) (n : Nat) : Bytes × FileHandle :=
  let bytes := (h.content.drop h.cursor).take n
  (bytes, { h with cursor := h.cursor + bytes.length })

end FileHandle

end LogFollow
