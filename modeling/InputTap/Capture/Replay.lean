import InputTap.Capture.Session

/-!
# Replaying recorded signals

A `Replay` stands in for the native hook: it feeds a session from a queue of signals instead of the
desktop. A run starts the session, takes signals from the front of the queue until a stop, and stops
the session; a consumer that asks for a stop puts one at the end of the queue. A run whose queue is
empty before a stop came waits for more, and its session goes on. What a run leaves in the queue is
there for the next one. Three failures can be armed: of the set-up and of a restart, which happen
once, and of stop requests, which is permanent.
-/

set_option autoImplicit false

namespace InputTap.Capture

/-- What the native hook has to tell a session. -/
inductive Signal
  | input (raw : RawInput)
  | restart
  | stop
deriving DecidableEq, Inhabited

/-- A queue of signals and the failures armed for them. -/
structure Replay where
  /-- The time at which sessions start. -/
  startTime : Millis := 0
  /-- The reason with which the next set-up fails. -/
  setupFault : Option String := none
  /-- The reason with which the next restart fails. -/
  restartFault : Option String := none
  /-- The fault with which stop requests fail. -/
  stopFault : Option HookFault := none
  /-- The signals to come. -/
  queue : List Signal := []
  /-- The verdicts on the inputs so far. -/
  verdicts : List Verdict := []
  /-- The stop requests so far, those that failed included. -/
  stopRequests : Nat := 0

/-- How far a run has come once its queue stops it or has no more signals. -/
structure Drained (σ : Type) where
  session : Session σ
  /-- The signals that were not taken. -/
  rest : List Signal
  /-- The time of the last input. -/
  time : Millis
  verdicts : List Verdict
  trace : Trace
  restartFault : Option String
  /-- How the run ends; without an end it waits for the next signal. -/
  result : Option (Except HookFault Unit)

/-- Stops the session of a run that has ended; one that waits goes on with it. -/
def Drained.close {σ : Type} (d : Drained σ) (w : Surroundings) : Session σ × Trace :=
  match d.result with
  | some _ => d.session.stop w d.time
  | none => (d.session, [])

/-- The end of a run, or the point where it waits. -/
structure RunEnd (σ : Type) where
  replay : Replay
  session : Session σ
  trace : Trace
  /-- How the run has ended, if it has; otherwise it waits for the next signal. -/
  result : Option (Except HookFault Unit)

namespace Replay

variable {σ : Type}

/-- The stops that requests put into the queue. -/
def granted (r : Replay) (requests : Nat) : Nat :=
  if r.stopFault.isSome then 0 else requests

/-- Puts requested stops at the end of the queue and counts the requests. -/
def request (r : Replay) (requests : Nat) : Replay :=
  { r with
    queue := r.queue ++ List.replicate (r.granted requests) .stop
    stopRequests := r.stopRequests + requests }

/-- One stop request from outside a run. -/
def requestStop (r : Replay) : Replay × Except HookFault Unit :=
  (r.request 1, match r.stopFault with
    | some f => .error f
    | none => .ok ())

/-- Takes signals until a stop or a failing restart, or until there are none. `owed` stops stand
behind the given signals. -/
def drain (r : Replay) (w : Surroundings) :
    List Signal → Nat → Session σ → Millis → Drained σ
  | [], 0, s, time =>
    { session := s, rest := [], time, verdicts := [], trace := []
      restartFault := r.restartFault, result := none }
  | [], owed + 1, s, time =>
    { session := s, rest := List.replicate owed .stop, time, verdicts := [], trace := []
      restartFault := r.restartFault, result := some (.ok ()) }
  | .stop :: rest, owed, s, time =>
    { session := s, rest := rest ++ List.replicate owed .stop, time, verdicts := [], trace := []
      restartFault := r.restartFault, result := some (.ok ()) }
  | .restart :: rest, owed, s, time =>
    let b := s.beginRestart
    match r.restartFault with
    | some reason =>
      { session := b.1, rest := rest ++ List.replicate owed .stop, time, verdicts := []
        trace := b.2, restartFault := none, result := some (.error (.setupFailed reason)) }
    | none =>
      let f := b.1.finishRestart w
      let d := drain r w rest owed f.1 time
      { d with trace := b.2 ++ f.2 ++ d.trace }
  | .input raw :: rest, owed, s, _ =>
    let h := s.handle w raw
    let d := drain r w rest (owed + r.granted h.2.stops) h.1 raw.time
    { d with trace := h.2 ++ d.trace, verdicts := h.2.verdict :: d.verdicts }

/-- Runs a session on the queue. -/
def run (r : Replay) (w : Surroundings) (s : Session σ) : RunEnd σ :=
  match r.setupFault with
  | some reason =>
    { replay := { r with setupFault := none }, session := s, trace := []
      result := some (.error (.setupFailed reason)) }
  | none =>
    match s.start w r.startTime with
    | .error f => { replay := r, session := s, trace := [], result := some (.error f) }
    | .ok started =>
      let d := r.drain w r.queue (r.granted started.2.stops) started.1 r.startTime
      let e := d.close w
      let after : Replay :=
        { r with
          queue := d.rest ++ List.replicate (r.granted e.2.stops) .stop
          verdicts := r.verdicts ++ d.verdicts
          restartFault := d.restartFault
          stopRequests := r.stopRequests + (started.2 ++ d.trace ++ e.2 : Trace).stops }
      { replay := after, session := e.1, trace := started.2 ++ d.trace ++ e.2
        result := d.result }

end Replay

end InputTap.Capture
