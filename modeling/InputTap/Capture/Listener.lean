import InputTap.Capture.Relay
import InputTap.Event.Line
import InputTap.Output

/-!
# Listening

A `Listener` prints the report line of every event and asks the hook to stop when its stop key is
pressed. It listens in the hook, where each event is printed before the next one is made, or beside
the hook, where the receiver of a relay prints.
-/

set_option autoImplicit false

namespace InputTap.Capture

/-- What a listener withholds from the desktop, and the key that ends it. -/
structure Listener where
  policy : ConsumePolicy
  stopKey : KeyCode
deriving DecidableEq, Inhabited

/-- The end of listening, or the point where it waits: the queue, what was written and the
outcome. -/
structure Listened where
  replay : Replay
  output : List Output
  /-- How listening has ended, if it does not wait for the next signal. -/
  result : Option (Except RelayFault Unit)

namespace Listener

/-- The answer to an event. -/
def answer (l : Listener) (e : Event) : Answer where
  verdict := l.policy.verdict e
  stops := (e.isPressOf l.stopKey).toNat

/-- The listener as a consumer in the hook. -/
def consumer (l : Listener) : Consumer Unit where
  answer e s := (l.answer e, s)
  state := ()

/-- What is written at an emission in the hook: an event is printed after the log has told of its
dispatch and before its stop requests fail, if they do. -/
def writtenInHook (stopFault : Option HookFault) : Emission → List Output
  | .dispatched e a =>
    .log (Emission.dispatchLine e) :: .line e.line ::
      (Emission.refusalLines stopFault a).map .log
  | e => (e.lines stopFault).map .log

/-- Listens in the hook. A hook thread that `breaks` never gets to its run. -/
def listenInHook (l : Listener) (breaks : Bool) (replay : Replay) (w : Surroundings) : Listened :=
  if breaks then { replay, output := [], result := some (.error .threadBroke) }
  else
    let e := replay.run w (.new (.register l.consumer))
    { replay := e.replay, output := e.trace.flatMap (writtenInHook replay.stopFault)
      result := e.result.map (Except.mapError .hook) }

/-- The lines that are printed in the hook are those of the events received, in their order. -/
theorem lines_writtenInHook (stopFault : Option HookFault) (t : Trace) :
    Output.lines (t.flatMap (writtenInHook stopFault)) = t.events.map Event.line := by
  induction t with
  | nil => rfl
  | cons m t ih =>
    rw [List.flatMap_cons, Output.lines_append, ih]
    cases m with
    | noted n => simp [writtenInHook]
    | dropped e => simp [writtenInHook]
    | dispatched e a => simp [writtenInHook]

/-- The events that fit between the hook and the receiver that prints them. -/
def capacity : Nat := 1024

/-- The relay that passes the events on. -/
def relay (l : Listener) : Relay := { policy := l.policy, stopKey := some l.stopKey }

/-- Listens beside the hook, where what the channel still holds is printed once the run has ended or
while it waits. How the lines of the log come to lie between the printed ones is left open; here
they come first. -/
def listenBeside (l : Listener) (breaks : Bool) (replay : Replay) (w : Surroundings)
    (schedule : List (List ReceiverStep)) : Listened :=
  let e := l.relay.launch breaks replay w (.new capacity) schedule
  { replay := e.replay
    output := (e.trace.lines replay.stopFault).map .log ++
      e.channel.delivered.map fun e => .line e.line
    result := e.result }

end Listener

end InputTap.Capture
