import LogFollow.Json.Record

/-!
# JSON values of any kind

Where a value may be of several kinds it is read as a tree, and the tree is looked at afterwards.
-/

namespace LogFollow.Json

inductive Tree
  | null
  | bool (value : Bool)
  | number (value : Number)
  | string (value : String)
  | list (elements : List Tree)
  | object (members : List (String × Tree))

namespace Tree

/-- Reads a value in which lists and objects are nested at most `depth` deep. -/
def read : (depth : Nat) → Reads Tree
  | depth, text =>
    match skipBlanks text with
    | [] => .error .ended
    | 'n' :: rest => (readName "ull".toList rest).map (.null, ·)
    | 't' :: rest => (readName "rue".toList rest).map (.bool true, ·)
    | 'f' :: rest => (readName "alse".toList rest).map (.bool false, ·)
    | '"' :: rest => (readStringTail rest).map fun (s, rest) => (.string s, rest)
    | '[' :: rest =>
      match depth with
      | 0 => .error .malformed
      | depth + 1 =>
        (readElements (read depth) (rest.length + 1) true rest).map fun (l, rest) => (.list l, rest)
    | '\x7b' :: rest =>
      match depth with
      | 0 => .error .malformed
      | depth + 1 =>
        (readMembers (read depth) (rest.length + 1) true rest).map fun (l, rest) =>
          (.object l, rest)
    | c :: rest =>
      if isDigit c ∨ c = '-' then
        (readNumber (c :: rest)).map fun (n, rest) => (.number n, rest)
      else .error .malformed

end Tree

end LogFollow.Json
