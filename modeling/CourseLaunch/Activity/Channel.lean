import CourseLaunch.Activity.Event
/-!
# The activity channel

Every receiver gets the events that are published after it subscribed, in order. The channel keeps
the last sixteen events; a receiver that falls further behind is told how many it lost, and goes on
with the oldest event that is kept.
-/

namespace CourseLaunch.Activity

def capacity : Nat := 16

/-- A channel. Positions count the events published before. -/
structure Channel where
  published : Nat
  kept : List Event
  isOpen : Bool
  receivers : List (Nat × Nat)
  nextReceiver : Nat
deriving Repr

/-- What a receiver gets. -/
inductive Received where
  | event (e : Event)
  | lagged (lost : Nat)
  | empty
  | closed
deriving DecidableEq, Repr

namespace Channel

def fresh : Channel := ⟨0, [], true, [], 0⟩

/-- Adds a receiver, and gives its number. -/
def subscribe (c : Channel) : Nat × Channel :=
  (c.nextReceiver, { c with
    receivers := c.receivers ++ [(c.nextReceiver, c.published)]
    nextReceiver := c.nextReceiver + 1 })

def unsubscribe (c : Channel) (receiver : Nat) : Channel :=
  { c with receivers := c.receivers.filter fun r => r.1 ≠ receiver }

def receiverCount (c : Channel) : Nat := c.receivers.length

/-- The last events of a list, as many as are kept. -/
def lastKept (events : List Event) : List Event := events.drop (events.length - capacity)

/-- Sends an event to all receivers, and gives their number. -/
def publish (c : Channel) (e : Event) : Nat × Channel :=
  if c.isOpen then
    (c.receiverCount, { c with published := c.published + 1, kept := lastKept (c.kept ++ [e]) })
  else (0, c)

def close (c : Channel) : Channel := { c with isOpen := false }

/-- How many receivers a sender would see. -/
def subscribers (c : Channel) : Nat := if c.isOpen then c.receiverCount else 0

def oldest (c : Channel) : Nat := c.published - c.kept.length

/-- What comes next at a position, and the position after it. -/
def next (c : Channel) (position : Nat) : Received × Nat :=
  if position < c.oldest then (.lagged (c.oldest - position), c.oldest)
  else
    match c.kept[position - c.oldest]? with
    | some e => (.event e, position + 1)
    | none => (if c.isOpen then .empty else .closed, position)

/-- Moves a receiver to a position. -/
def move (c : Channel) (receiver position : Nat) : Channel :=
  { c with receivers := c.receivers.map fun r =>
      if r.1 = receiver then (receiver, position) else r }

/-- The events that a receiver can still get. -/
def unread (c : Channel) (receiver : Nat) : List Event :=
  c.kept.drop ((c.receivers.lookup receiver).getD c.published - c.oldest)

def hasNews (c : Channel) (receiver : Nat) : Bool :=
  !(c.unread receiver).isEmpty || !c.isOpen

/-- How often a receiver receives at most before it has to wait: it may be told of a loss first,
and of the end last. -/
def backlog (c : Channel) : Nat := c.kept.length + 2

/-- Receives without waiting, or `none` when there is no such receiver. -/
def receive? (c : Channel) (receiver : Nat) : Option (Received × Channel) :=
  (c.receivers.lookup receiver).map fun position =>
    let (received, position) := c.next position
    (received, c.move receiver position)

end Channel

end CourseLaunch.Activity
