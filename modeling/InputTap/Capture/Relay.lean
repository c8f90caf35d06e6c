import InputTap.Capture.Channel
import InputTap.Capture.ConsumePolicy
import InputTap.Capture.Replay

/-!
# Relays

A `Relay` is a consumer that decides by a policy and passes every event on through a channel to a
receiver beside the hook. A press of the stop key asks the hook to stop, and so does an event that
finds the receiver gone; an event that finds the channel full is lost. The receiver's steps between
one event and the next come from a schedule, so that a statement about all schedules is one about
all ways in which hook and receiver can take turns.
-/

set_option autoImplicit false

namespace InputTap.Capture

/-- What a relay does with events. -/
structure Relay where
  policy : ConsumePolicy
  stopKey : Option KeyCode := none

/-- The channel of a relay, and what the receiver will do before each of the next events. -/
structure RelayState where
  channel : Channel
  schedule : List (List ReceiverStep) := []

/-- Why a relay did not end well. No fault stands for a hook thread that the system does not start:
every thread is started, though it may break down. -/
inductive RelayFault
  | hook (fault : HookFault)
  /-- The hook thread broke down instead of ending its run. -/
  | threadBroke
deriving DecidableEq, Inhabited

/-- The message of a fault. -/
def RelayFault.message : RelayFault → String
  | .hook f => f.message
  | .threadBroke => "hook thread panicked"

/-- The end of a relay, or the point where its run waits: the queue, the channel, what happened and
the outcome. -/
structure RelayEnd where
  replay : Replay
  channel : Channel
  trace : Trace
  /-- How the relay has ended, if its run does not wait. -/
  result : Option (Except RelayFault Unit)

namespace Relay

/-- The event is a press of the stop key. -/
def isStopPress (r : Relay) (e : Event) : Bool :=
  r.stopKey.any e.isPressOf

/-- The answer to an event, and what becomes of the channel. -/
def answer (r : Relay) (e : Event) (s : RelayState) : Answer × RelayState :=
  let channel := s.channel.steps (s.schedule.headD [])
  let sent := channel.send e
  ({ verdict := r.policy.verdict e
     stops := (r.isStopPress e).toNat + (sent.2 == .closed).toNat },
    { channel := sent.1, schedule := s.schedule.tail })

/-- The relay as a consumer. -/
def consumer (r : Relay) (channel : Channel) (schedule : List (List ReceiverStep)) :
    Consumer RelayState where
  answer := r.answer
  state := { channel, schedule }

/-- The run of a relay on a replay. -/
def run (r : Relay) (replay : Replay) (w : Surroundings) (channel : Channel)
    (schedule : List (List ReceiverStep)) : RunEnd RelayState :=
  replay.run w (.new (.register (r.consumer channel schedule)))

/-- The channel after a run. -/
def channelAfter (e : RunEnd RelayState) (before : Channel) : Channel :=
  e.session.normalizer.dispatcher.consumer?.elim before fun c => c.state.channel

/-- Runs a relay on a hook thread and waits for the thread. A thread that `breaks` never gets to its
run. -/
def launch (r : Relay) (breaks : Bool) (replay : Replay) (w : Surroundings) (channel : Channel)
    (schedule : List (List ReceiverStep)) : RelayEnd :=
  if breaks then { replay, channel, trace := [], result := some (.error .threadBroke) }
  else
    let e := r.run replay w channel schedule
    { replay := e.replay, channel := channelAfter e channel, trace := e.trace
      result := e.result.map (Except.mapError .hook) }

end Relay

end InputTap.Capture
