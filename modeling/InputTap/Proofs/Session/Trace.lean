import InputTap.Proofs.Session.Received
import InputTap.Proofs.Verdicts

/-!
# The trace of some calls

`traceOf` is what happened at some calls of a session, in order, and `handled` lists the inputs that
were handed to it with the verdicts that it returned. A consumer answers what it receives at
different calls as it would answer the events one after the other (`replies_traceOf`).
-/

set_option autoImplicit false

namespace InputTap.Capture

variable {σ : Type}

theorem Trace.stops_map_noted (ns : List Notice) : Trace.stops (ns.map .noted) = 0 := by
  induction ns with
  | nil => rfl
  | cons n ns ih => exact (Nat.zero_add _).trans ih

namespace Session

/-- What happened at some calls. -/
def traceOf (sts : List (CallStep σ)) : Trace := sts.flatMap fun st => st.output.trace

/-- The inputs that were handed to the session at some calls, with the verdicts on them. -/
def handled (sts : List (CallStep σ)) : List (RawInput × Verdict) :=
  sts.filterMap fun st =>
    match st.input.2 with
    | .handle raw => some (raw, st.output.trace.verdict)
    | _ => none

theorem traceOf_cons (st : CallStep σ) (sts : List (CallStep σ)) :
    traceOf (st :: sts) = st.output.trace ++ traceOf sts := rfl

theorem traceOf_append (a b : List (CallStep σ)) : traceOf (a ++ b) = traceOf a ++ traceOf b :=
  List.flatMap_append

theorem handled_append (a b : List (CallStep σ)) : handled (a ++ b) = handled a ++ handled b :=
  List.filterMap_append

theorem events_traceOf (sts : List (CallStep σ)) : (traceOf sts).events = received sts := by
  induction sts with
  | nil => rfl
  | cons st sts ih => rw [traceOf_cons, Trace.events_append, ih, received_cons]

/-- The answers that a call records are those of the consumer to what it received. -/
theorem replies_onCall {s : Session σ} {c : Consumer σ}
    (h : s.normalizer.dispatcher = .register c) (x : Surroundings × Call) :
    (s.onCall x).2.trace.replies = c.replies (s.onCall x).2.trace.events := by
  obtain ⟨d, delivered⟩ := s.deliver_onCall x
  have answered := Dispatcher.replies_deliver_register c d
  rw [← h, delivered] at answered
  exact answered

/-- So are the answers that some calls record. -/
theorem replies_traceOf {s : Session σ} {c : Consumer σ}
    (h : s.normalizer.dispatcher = .register c) (calls : List (Surroundings × Call)) :
    (traceOf (Run.steps onCall s calls)).replies =
      c.replies (traceOf (Run.steps onCall s calls)).events := by
  rw [events_traceOf]
  induction calls generalizing s c with
  | nil => rfl
  | cons x calls ih =>
    rw [Run.steps_cons, traceOf_cons, Trace.replies_append, received_cons,
      Consumer.replies_append, ih (dispatcher_onCall h x)]
    exact congrArg (· ++ _) (replies_onCall h x)

/-- A restart asks for no stop. -/
theorem stops_restart (s : Session σ) (w : Surroundings) :
    (s.onCall (w, .beginRestart)).2.trace.stops = 0 ∧
      (s.onCall (w, .finishRestart)).2.trace.stops = 0 := by
  obtain ⟨phase, n⟩ := s
  cases phase with
  | running => exact ⟨rfl, rfl⟩
  | idle => exact ⟨rfl, rfl⟩
  | stopped => exact ⟨rfl, rfl⟩
  | restarting =>
    obtain ⟨ns, h⟩ := onCall_finishRestart (s := ⟨.restarting, n⟩) w rfl
    rw [h]
    exact ⟨rfl, Trace.stops_map_noted ns⟩

theorem start_of_idle {s : Session σ} (h : s.phase = .idle) (w : Surroundings) (time : Millis) :
    s.start w time =
      .ok ((s.onCall (w, .start time)).1, (s.onCall (w, .start time)).2.trace) := by
  obtain ⟨phase, n⟩ := s
  subst h
  rfl

theorem start_of_ne_idle {s : Session σ} (h : s.phase ≠ .idle) (w : Surroundings)
    (time : Millis) : s.start w time = .error .alreadyStarted := by
  obtain ⟨phase, n⟩ := s
  cases phase with
  | idle => exact absurd rfl h
  | running => rfl
  | restarting => rfl
  | stopped => rfl

end Session

end InputTap.Capture
