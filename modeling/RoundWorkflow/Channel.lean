import RoundWorkflow.Recent

/-!
# Notifications

A channel passes messages on to any number of subscribers.  It holds the latest
messages only, so that a slow subscriber cannot hold up the sender.  A subscription
is the number of the next message that it is due; one that has fallen too far behind
first learns how many messages it missed, and then gets those that are still held.

The capacity of a channel is a power of two, at least the one that is asked for.  Not every
number may be asked for: there is no channel without room, and none of more than
`maxChannelCapacity`.  Whether there is memory for all the messages is another question,
which is not asked here.
-/

namespace RoundWorkflow

/-- The least power of two that is at least a number. -/
def powerOfTwoFrom (n : Nat) : Nat := if n ≤ 1 then 1 else Nat.pow 2 ((n - 1).log2 + 1)

/-- The greatest capacity that may be asked for. -/
def maxChannelCapacity : Nat := Nat.pow 2 63 - 1

/-- The latest messages. -/
structure Channel (α : Type) where
  /-- The messages held. -/
  log : Recent α

/-- The number of the next message that a subscriber is due. -/
abbrev Subscription := Nat

/-- What a subscriber gets when it asks. -/
inductive Delivery (α : Type) where
  /-- The number of messages that it was due and that are no longer held. -/
  | missed (count : Nat)
  /-- The next message. -/
  | message (a : α)
  deriving DecidableEq, Repr

namespace Channel

variable {α : Type}

/-- Whether a capacity may be asked for.  A program that asks for any other one is aborted. -/
def isMadeFor (capacity : Nat) : Bool := 0 < capacity && capacity ≤ maxChannelCapacity

/-- The channel without messages. -/
def empty (capacity : Nat) : Channel α := ⟨.empty (powerOfTwoFrom capacity)⟩

/-- With one more message. -/
def send (c : Channel α) (a : α) : Channel α := ⟨c.log.push a⟩

/-- A subscription to the messages from now on. -/
def subscribe (c : Channel α) : Subscription := c.log.total

/-- The number of messages that a subscriber was due and that are no longer held. -/
def missed (c : Channel α) (s : Subscription) : Nat := c.log.first - s

/-- The messages held that a subscriber is due, oldest first. -/
def due (c : Channel α) (s : Subscription) : List α := c.log.toList.drop (s - c.log.first)

/-- What a subscriber gets when it asks once, if there is anything, and what it is due after
that. -/
def receive (c : Channel α) (s : Subscription) : Option (Delivery α) × Subscription :=
  if 0 < c.missed s then (some (.missed (c.missed s)), c.log.first)
  else
    match c.due s with
    | [] => (none, s)
    | a :: _ => (some (.message a), s + 1)

/-- What a subscriber gets when it asks a number of times, or until there is nothing left. -/
def receiveUpTo (c : Channel α) : Nat → Subscription → List (Delivery α) × Subscription
  | 0, s => ([], s)
  | n + 1, s =>
    match c.receive s with
    | (none, s') => ([], s')
    | (some d, s') => (d :: (c.receiveUpTo n s').1, (c.receiveUpTo n s').2)

/-- What a subscriber gets when it asks until there is nothing left: a notice of what it missed, if
it missed any, and then the messages that are held. -/
def drain (c : Channel α) (s : Subscription) : List (Delivery α) × Subscription :=
  c.receiveUpTo (c.log.size + 1) s

end Channel

end RoundWorkflow
