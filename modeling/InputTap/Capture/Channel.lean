import InputTap.Event.Basic

/-!
# Bounded channels

A `Channel` carries events to a receiver that works beside the hook. Sending never waits: an event
is buffered, or refused because the buffer is full, or refused because the receiver is gone. The
receiver takes events from the buffer in the order in which they were sent, or goes away and with
it whatever is still buffered.
-/

set_option autoImplicit false

namespace InputTap.Capture

/-- The events on their way to a receiver. -/
structure Channel where
  /-- The events that fit into the buffer. -/
  capacity : Nat
  /-- The events sent and not yet received. -/
  buffered : List Event := []
  /-- The events received. -/
  received : List Event := []
  /-- The receiver is there. -/
  isOpen : Bool := true
deriving DecidableEq, Inhabited

/-- What became of an event that was sent. -/
inductive Sending
  | buffered
  | full
  | closed
deriving DecidableEq, Inhabited

/-- A step of the receiver. -/
inductive ReceiverStep
  | receive
  | close
deriving DecidableEq, Inhabited

namespace Channel

/-- A channel for at least one event. -/
def new (capacity : Nat) : Channel := { capacity := max 1 capacity }

/-- Sends an event without waiting. -/
def send (c : Channel) (e : Event) : Channel × Sending :=
  if !c.isOpen then (c, .closed)
  else if c.buffered.length < c.capacity then
    ({ c with buffered := c.buffered ++ [e] }, .buffered)
  else (c, .full)

/-- Lets the receiver take one step; there is nothing to receive from an empty buffer. -/
def step (c : Channel) : ReceiverStep → Channel
  | .receive =>
    match c.buffered with
    | [] => c
    | e :: rest => { c with buffered := rest, received := c.received ++ [e] }
  | .close => { c with buffered := [], isOpen := false }

/-- Lets the receiver take some steps. -/
def steps (c : Channel) (ss : List ReceiverStep) : Channel := ss.foldl step c

/-- The events that reach a receiver that goes on receiving. -/
def delivered (c : Channel) : List Event := c.received ++ c.buffered

end Channel

end InputTap.Capture
