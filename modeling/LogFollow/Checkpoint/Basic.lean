import LogFollow.Attributes
import LogFollow.Fingerprint

/-!
# Checkpoints

A checkpoint holds all that is needed to go on reading a file after a restart: where the file was
last seen, how it is recognised, how far it was read, and the attributes of its header.
-/

namespace LogFollow

structure Checkpoint where
  /-- The path under which the file was last seen. -/
  path : String
  fingerprint : Fingerprint
  /-- The index of the first byte that has not been delivered. -/
  offset : Nat
  lastSeenSize : Nat
  /-- The attributes of the header; nothing while the header is still being read. -/
  header : Option Attributes
deriving DecidableEq

end LogFollow
