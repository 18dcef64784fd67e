/-!
# Bounded channels

A channel holds a bounded number of items between its senders and its receiver. Items come out in the
order in which they went in. What is held when all senders are gone can still be received; what is
sent when the receiver is gone is refused.
-/

namespace LogFollow

structure Channel (α : Type) where
  capacity : Nat
  queue : List α := []
  /-- For each sender, whether it is still there. -/
  senders : List Bool := [true]
  receiver : Bool := true
deriving DecidableEq, Repr

inductive Sending
  | sent
  /-- There is no room; nothing is sent. -/
  | full
  | disconnected
deriving DecidableEq, Repr

inductive Receiving (α : Type)
  | item (a : α)
  /-- There is no item yet. -/
  | pending
  /-- There is no item, and all senders are gone. -/
  | closed
deriving DecidableEq, Repr

namespace Channel

variable {α : Type}

def hasSender (c : Channel α) (sender : Nat) : Bool := (c.senders[sender]?).getD false

def isEmpty (c : Channel α) : Bool := c.queue.isEmpty

def size (c : Channel α) : Nat := c.queue.length

/-- Sends an item without waiting. -/
def send (c : Channel α) (a : α) : Sending × Channel α :=
  if !c.receiver then (.disconnected, c)
  else if c.size < c.capacity then (.sent, { c with queue := c.queue ++ [a] })
  else (.full, c)

def receive (c : Channel α) : Receiving α × Channel α :=
  match c.queue with
  | a :: rest => (.item a, { c with queue := rest })
  | [] => (if c.senders.contains true then .pending else .closed, c)

def drain (c : Channel α) : List α × Channel α := (c.queue, { c with queue := [] })

/-- Adds a sender; its number is one more than that of the last one. -/
def addSender (c : Channel α) : Nat × Channel α :=
  (c.senders.length, { c with senders := c.senders ++ [true] })

def dropSender (c : Channel α) (sender : Nat) : Channel α :=
  { c with senders := c.senders.set sender false }

def dropReceiver (c : Channel α) : Channel α := { c with receiver := false }

end Channel

end LogFollow
