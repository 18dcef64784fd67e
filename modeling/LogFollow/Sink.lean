import LogFollow.Event.Basic

/-!
# Sinks

A sink takes the events that readers deliver. It may refuse an event, or break down over one; what it
does is fixed for each event by the number of events that were offered before. Those who read on
behalf of a sink look in front of each item whether it is cancelled, and stop if it is. This may come
with an event, or from outside between any two looks, and is for good.
-/

namespace LogFollow

inductive Reaction
  | accept
  /-- The event is accepted, and reading is to stop. -/
  | acceptAndCancel
  | refuse
  /-- The sink breaks down with a message. -/
  | breakDown (message : String)
deriving DecidableEq, Repr

structure Sink where
  /-- By the number of events that were offered before. -/
  reaction : Nat → Reaction
  offered : Nat := 0
  accepted : List Event := []
  cancelled : Bool := false
  /-- Whether it is cancelled from outside, by the number of looks before that. -/
  interrupts : Nat → Bool := fun _ => false
  looks : Nat := 0

inductive Offer
  | accepted
  | refused
  | broken (message : String)
deriving DecidableEq, Repr

namespace Sink

def healthy : Sink := { reaction := fun _ => .accept }

instance : Inhabited Sink := ⟨healthy⟩

/-- Looks whether reading is to stop. -/
def look (s : Sink) : Bool × Sink :=
  if s.cancelled then (true, s)
  else
    let stops := s.interrupts s.looks
    (stops, { s with looks := s.looks + 1, cancelled := stops })

def offer (s : Sink) (e : Event) : Offer × Sink :=
  let next := { s with offered := s.offered + 1 }
  match s.reaction s.offered with
  | .accept => (.accepted, { next with accepted := s.accepted ++ [e] })
  | .acceptAndCancel => (.accepted, { next with accepted := s.accepted ++ [e], cancelled := true })
  | .refuse => (.refused, next)
  | .breakDown message => (.broken message, next)

end Sink

end LogFollow
