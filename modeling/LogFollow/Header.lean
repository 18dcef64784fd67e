import LogFollow.Attributes
import LogFollow.Pattern.Regex
import LogFollow.Text.Utf8

/-!
# File headers

Leading lines of a file may carry attributes of all its events. A header rule takes a line, and gives
the key and the value in it if it is a header line. A pattern makes such a rule when it names just
two groups, the key and the value.
-/

namespace LogFollow

/-- A rule that finds the key and the value in a header line. -/
def HeaderRule := String → Option (String × String)

inductive HeaderFault
  | pattern (refusal : Pattern.Refusal)
  /-- The pattern names other groups than a key and a value. -/
  | groups (names : List String)
deriving DecidableEq, Repr

namespace HeaderRule

/-- The two groups that a header pattern names, in order. -/
def groupNames : List String := ["key", "value"]

/-- The header rule of a compiled pattern. Both groups must take part in the match. -/
def ofRegex (r : Pattern.Regex) : HeaderRule := fun line =>
  let subject := Bytes.ofString line
  match r.search.first? subject 0 with
  | none => none
  | some (slots, _) =>
    match r.groupSpan? slots "key", r.groupSpan? slots "value" with
    | some key, some value =>
      some (Text.Utf8.decode (Bytes.slice subject key.start key.stop),
        Text.Utf8.decode (Bytes.slice subject value.start value.stop))
    | _, _ => none

def compile (pattern : String) : Except HeaderFault HeaderRule :=
  match Pattern.Regex.compile ⟨true, false⟩ true pattern with
  | .error refusal => .error (.pattern refusal)
  | .ok r =>
    let names := r.groupNames.mergeSort
    if names = groupNames then .ok (ofRegex r) else .error (.groups names)

/-- Adds the attribute that a line carries; nothing if it is no header line. -/
def extract? (rule : HeaderRule) (line : String) (attributes : Attributes) : Option Attributes :=
  (rule line).map fun (key, value) => attributes.insert key value

end HeaderRule

end LogFollow
