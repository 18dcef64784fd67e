import LogFollow.Pattern.Parser
import LogFollow.Pattern.Search

/-!
# Compiled patterns

A compiled pattern finds the leftmost match at or after a place, and tells where the groups of a
match lie. Patterns that are malformed, or whose program would be too large, are refused.
-/

namespace LogFollow.Pattern

inductive Refusal
  | malformed
  | tooLarge
deriving DecidableEq, Repr

/-- The first line of the text that describes a refusal. -/
def Refusal.message : Refusal → String
  | .malformed => "regex parse error:"
  | .tooLarge => s!"Compiled regex exceeds size limit of {sizeLimit} bytes."

structure Regex where
  pattern : String
  /-- The names of the remembered groups; the first one is group 1. -/
  names : List (Option String)
  search : Search

namespace Regex

/-- Compiles a pattern; the places of groups are remembered if `groups` is set. A pattern must fit into
the limit for both directions, though a search goes forward. -/
def compile (options : Options) (groups : Bool) (pattern : String) : Except Refusal Regex :=
  match parse options pattern with
  | none => .error .malformed
  | some parsed =>
    match Program.ofExpr? false parsed.expr, Program.ofExpr? true parsed.expr with
    | some program, some _ =>
      let slotBound := if groups then none else some 1
      .ok {
        pattern
        names := parsed.names
        search := { program, slotBound, scalarsOnly := options.scalarsOnly } }
    | _, _ => .error .tooLarge

/-- The first match that starts at or after index `start`. -/
def find? (r : Regex) (subject : Bytes) (start : Nat) : Option Span :=
  (r.search.first? subject start).map fun (slots, stop) => ⟨(slots.get? 0).getD start, stop⟩

/-- The names of the groups that have one, in order. -/
def groupNames (r : Regex) : List String := r.names.filterMap id

/-- The span of the group with a name in the first match of the subject, if the group took part. -/
def groupSpan? (r : Regex) (slots : Slots) (name : String) : Option Span :=
  match r.names.findIdx? (· == some name) with
  | none => none
  | some i =>
    match slots.get? (2 * (i + 1)), slots.get? (2 * (i + 1) + 1) with
    | some start, some stop => some ⟨start, stop⟩
    | _, _ => none

end Regex

end LogFollow.Pattern
