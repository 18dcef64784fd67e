import LogFollow.Attributes
import LogFollow.Body
import LogFollow.Event.Severity

/-!
# Events

An event is what becomes of a token: its body, with the attributes of the file and of its header.
Events get their timestamps when they leave the program.
-/

namespace LogFollow

/-- What is read from a file. -/
structure Event where
  body : Body
  attributes : Attributes
deriving DecidableEq

end LogFollow
