import InputTap.Capture.Fault
import InputTap.Capture.Notice
import InputTap.Event.Verdict

/-!
# Dispatching

Events go to the one registered `Consumer`, which answers each with a verdict and may ask the hook
to stop. An input does not dispatch by itself: it yields a `Delivery`, which says what is noted,
which event leads and which events follow if the leading one is not consumed. `Dispatcher.deliver`
carries a delivery out, and what then happened is a `Trace`; the verdict on the input, the events
received and the stop requests are all read off the trace.
-/

set_option autoImplicit false

namespace InputTap.Capture

/-- A consumer's answer to an event. -/
structure Answer where
  verdict : Verdict
  /-- How many times the consumer asked the hook to stop. -/
  stops : Nat := 0
deriving DecidableEq, Inhabited

/-- A consumer with its present state. -/
structure Consumer (σ : Type) where
  answer : Event → σ → Answer × σ
  state : σ

/-- The place where at most one consumer is registered. -/
structure Dispatcher (σ : Type) where
  consumer? : Option (Consumer σ) := none

/-- One thing that happened while a delivery was carried out. -/
inductive Emission
  /-- A fact was noted. -/
  | noted (notice : Notice)
  /-- The consumer received an event and answered. -/
  | dispatched (event : Event) (answer : Answer)
  /-- An event found no consumer. -/
  | dropped (event : Event)
deriving DecidableEq, Inhabited

/-- What happened, in order. -/
abbrev Trace := List Emission

namespace Emission

/-- The verdict that an emission contributes. -/
def verdict : Emission → Verdict
  | .dispatched _ a => a.verdict
  | _ => .pass

/-- The event that the consumer received. -/
def received? : Emission → Option Event
  | .dispatched e _ => some e
  | _ => none

/-- The stop requests that the consumer made. -/
def stops : Emission → Nat
  | .dispatched _ a => a.stops
  | _ => 0

/-- The log line of a dispatch. -/
def dispatchLine (e : Event) : Log.Line :=
  ⟨.debug, "dispatching event event_type=" ++ e.type.name ++ " time=" ++
    Text.Numeral.decimal e.time ++ " mask=" ++ e.mask.hexText⟩

/-- The log lines of the stop requests in an answer, which fail with the given fault, if any. -/
def refusalLines (stopFault : Option HookFault) (a : Answer) : List Log.Line :=
  match stopFault with
  | none => []
  | some f => List.replicate a.stops ⟨.error, "failed to stop hook: " ++ f.message⟩

/-- The log lines of an emission, where stop requests fail with the given fault, if any. -/
def lines (stopFault : Option HookFault) : Emission → List Log.Line
  | .noted n => [n.line]
  | .dispatched e a => dispatchLine e :: refusalLines stopFault a
  | .dropped e =>
    [⟨.warn, "no dispatcher registered, event dropped event_type=" ++ e.type.name⟩]

end Emission

namespace Trace

/-- The events that the consumer received. -/
def events (t : Trace) : List Event := t.filterMap Emission.received?

/-- Consumes as soon as one event was consumed. -/
def verdict (t : Trace) : Verdict := t.foldl (fun v e => v.or e.verdict) .pass

/-- The stop requests that the consumer made. -/
def stops (t : Trace) : Nat := t.foldr (fun e n => e.stops + n) 0

/-- The log lines of a trace. -/
def lines (stopFault : Option HookFault) (t : Trace) : List Log.Line :=
  t.flatMap (Emission.lines stopFault)

@[simp] theorem events_cons_noted (n : Notice) (t : Trace) :
    Trace.events (.noted n :: t) = Trace.events t := rfl

@[simp] theorem events_cons_dispatched (e : Event) (a : Answer) (t : Trace) :
    Trace.events (.dispatched e a :: t) = e :: Trace.events t := rfl

@[simp] theorem events_cons_dropped (e : Event) (t : Trace) :
    Trace.events (.dropped e :: t) = Trace.events t := rfl

@[simp] theorem events_append (a b : Trace) :
    Trace.events (a ++ b) = Trace.events a ++ Trace.events b := by
  simp [events]

@[simp] theorem stops_append (a b : Trace) :
    Trace.stops (a ++ b) = Trace.stops a + Trace.stops b := by
  induction a with
  | nil => simp [stops]
  | cons e a ih =>
    simp only [stops, List.cons_append, List.foldr_cons] at ih ⊢
    rw [ih, Nat.add_assoc]

end Trace

/-- What a step of the hook wants noted and dispatched. -/
structure Delivery where
  /-- The facts to note first. -/
  before : List Notice := []
  /-- The event to dispatch next. -/
  lead : Option Event := none
  /-- The events to dispatch after it, unless it was consumed. -/
  followers : List Event := []
  /-- The facts to note last. -/
  after : List Notice := []
deriving DecidableEq, Inhabited

namespace Dispatcher

variable {σ : Type}

/-- The dispatcher with a consumer registered in place of any other. -/
def register (c : Consumer σ) : Dispatcher σ := ⟨some c⟩

/-- The dispatcher without a consumer. -/
def cleared : Dispatcher σ := ⟨none⟩

def isRegistered (d : Dispatcher σ) : Bool := d.consumer?.isSome

/-- Passes one event to the consumer. -/
def dispatch (d : Dispatcher σ) (e : Event) : Dispatcher σ × Emission :=
  match d.consumer? with
  | none => (d, .dropped e)
  | some c =>
    let r := c.answer e c.state
    (⟨some { c with state := r.2 }⟩, .dispatched e r.1)

/-- Passes events to the consumer one after the other, whatever it answers. -/
def dispatchAll (d : Dispatcher σ) : List Event → Dispatcher σ × Trace
  | [] => (d, [])
  | e :: es =>
    let r := d.dispatch e
    let rest := dispatchAll r.1 es
    (rest.1, r.2 :: rest.2)

/-- Passes the leading event to the consumer and, if it was not consumed, the following ones. -/
def dispatchLed (d : Dispatcher σ) (lead : Event) (followers : List Event) :
    Dispatcher σ × Trace :=
  let r := d.dispatch lead
  if r.2.verdict.isConsumed then (r.1, [r.2])
  else
    let rest := r.1.dispatchAll followers
    (rest.1, r.2 :: rest.2)

/-- Carries out a delivery. -/
def deliver (d : Dispatcher σ) (x : Delivery) : Dispatcher σ × Trace :=
  let r := match x.lead with
    | none => (d, [])
    | some lead => d.dispatchLed lead x.followers
  (r.1, x.before.map .noted ++ r.2 ++ x.after.map .noted)

/-- A dispatcher in logs. -/
def text (d : Dispatcher σ) : String :=
  "Dispatcher \x7b registered: " ++ (if d.isRegistered then "true" else "false") ++ " \x7d"

end Dispatcher

end InputTap.Capture
