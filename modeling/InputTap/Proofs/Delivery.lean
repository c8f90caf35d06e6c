import InputTap.Capture.Dispatcher

/-!
# What a consumer receives

A delivery offers its leading event and then, unless that one was consumed, the events that follow.
`Delivery.received` lists what reaches a consumer under a verdict on the leading event, and
`Consumer.fed` is the consumer afterwards: `events_deliver_register` and `deliver_register` say that
carrying out a delivery comes to just that. With or without a consumer, no other events go to the
dispatcher (`offered_deliver_subset`). A trace is then read by type: `eventsOf` keeps the
events of some types, and `consumed` asks whether an event of a type was consumed.
-/

set_option autoImplicit false

namespace InputTap

/-- The event has one of these types. -/
def Event.isOf (ts : List EventType) (e : Event) : Bool := e.type ∈ ts

theorem Event.isOf_iff {ts : List EventType} {e : Event} : e.isOf ts = true ↔ e.type ∈ ts :=
  decide_eq_true_iff

namespace Capture

variable {σ : Type}

namespace Consumer

/-- The consumer after it has received some events. -/
def fed (c : Consumer σ) (es : List Event) : Consumer σ :=
  { c with state := es.foldl (fun s e => (c.answer e s).2) c.state }

/-- The verdict of the consumer on an event that it receives next. -/
def verdictOn (c : Consumer σ) (e : Event) : Verdict := (c.answer e c.state).1.verdict

/-- The consumer that passes every event. -/
def passing : Consumer Unit where
  answer _ s := ({ verdict := .pass }, s)
  state := ()

@[simp] theorem verdictOn_passing (e : Event) : passing.verdictOn e = .pass := rfl

@[simp] theorem fed_nil (c : Consumer σ) : c.fed [] = c := rfl

@[simp] theorem fed_passing (es : List Event) : passing.fed es = passing := rfl

theorem fed_fed (c : Consumer σ) (es fs : List Event) : (c.fed es).fed fs = c.fed (es ++ fs) := by
  unfold fed
  rw [List.foldl_append]

end Consumer

namespace Delivery

/-- The events of a delivery that reach a consumer with this verdict on the leading one. -/
def received (x : Delivery) (v : Verdict) : List Event :=
  match x.lead with
  | none => []
  | some e => e :: if v.isConsumed then [] else x.followers

/-- The events that a delivery offers. -/
def events (x : Delivery) : List Event := x.received .pass

theorem received_of_lead {x : Delivery} {e : Event} (h : x.lead = some e) (v : Verdict) :
    x.received v = e :: if v.isConsumed then [] else x.followers := by
  unfold received
  rw [h]

theorem received_subset (x : Delivery) (v : Verdict) : x.received v ⊆ x.events := by
  unfold events received
  cases x.lead with
  | none => exact List.Subset.refl _
  | some e =>
    cases v with
    | pass => exact List.Subset.refl _
    | consume => exact List.cons_subset_cons e (List.nil_subset _)

theorem mem_events {x : Delivery} {e : Event} (h : e ∈ x.events) :
    x.lead = some e ∨ e ∈ x.followers := by
  unfold events received at h
  cases hl : x.lead with
  | none =>
    rw [hl] at h
    cases h
  | some l =>
    rw [hl] at h
    rcases List.mem_cons.1 h with rfl | h
    · exact .inl rfl
    · exact .inr h

end Delivery

/-- The verdict of a consumer on the leading event of a delivery. -/
def Consumer.verdictOnLead (c : Consumer σ) (x : Delivery) : Verdict :=
  x.lead.elim .pass c.verdictOn

/-- The event of an emission, whether a consumer received it or there was none. -/
def Emission.event? : Emission → Option Event
  | .dispatched e _ | .dropped e => some e
  | .noted _ => none

namespace Trace

/-- The events that went to the dispatcher, whether a consumer was registered or not. -/
def offered (t : Trace) : List Event := t.filterMap Emission.event?

/-- The received events of some types. -/
def eventsOf (ts : List EventType) (t : Trace) : List Event :=
  t.events.filter (Event.isOf ts)

/-- An event of this type was received and consumed. -/
def consumed (ty : EventType) (t : Trace) : Bool :=
  t.any fun
    | .dispatched e a => e.type == ty && a.verdict.isConsumed
    | _ => false

@[simp] theorem events_nil : Trace.events [] = [] := rfl

@[simp] theorem events_map_noted (ns : List Notice) : Trace.events (ns.map .noted) = [] := by
  induction ns with
  | nil => rfl
  | cons n ns ih => rw [List.map_cons, events_cons_noted, ih]

/-- What a consumer received went to the dispatcher. -/
theorem events_subset_offered (t : Trace) : t.events ⊆ t.offered := by
  intro e received
  obtain ⟨m, hm, event⟩ := List.mem_filterMap.1 received
  refine List.mem_filterMap.2 ⟨m, hm, ?_⟩
  cases m with
  | noted n => cases event
  | dropped e' => cases event
  | dispatched e' a => exact event

@[simp] theorem offered_append (a b : Trace) :
    Trace.offered (a ++ b) = Trace.offered a ++ Trace.offered b :=
  List.filterMap_append

@[simp] theorem offered_map_noted (ns : List Notice) : Trace.offered (ns.map .noted) = [] := by
  refine List.filterMap_eq_nil_iff.2 fun m hm => ?_
  obtain ⟨n, -, rfl⟩ := List.mem_map.1 hm
  rfl

@[simp] theorem consumed_append (ty : EventType) (a b : Trace) :
    Trace.consumed ty (a ++ b) = (Trace.consumed ty a || Trace.consumed ty b) :=
  List.any_append

@[simp] theorem consumed_map_noted (ty : EventType) (ns : List Notice) :
    Trace.consumed ty (ns.map .noted) = false := by
  simp [consumed]

theorem consumed_cons_dispatched (ty : EventType) (e : Event) (a : Answer) (t : Trace) :
    Trace.consumed ty (.dispatched e a :: t) =
      (e.type == ty && a.verdict.isConsumed || Trace.consumed ty t) := rfl

theorem consumed_eq_false {ty : EventType} {t : Trace} (h : ∀ e ∈ t.events, e.type ≠ ty) :
    t.consumed ty = false := by
  refine List.any_eq_false.2 fun m hm => ?_
  cases m with
  | noted n => exact Bool.false_ne_true
  | dropped e => exact Bool.false_ne_true
  | dispatched e a =>
    have received : e ∈ t.events := List.mem_filterMap.2 ⟨_, hm, rfl⟩
    have other : (e.type == ty) = false := by simpa using h e received
    simp [other]

end Trace

namespace Dispatcher

theorem dispatch_register (c : Consumer σ) (e : Event) :
    (register c).dispatch e = (register (c.fed [e]), .dispatched e (c.answer e c.state).1) := rfl

theorem dispatchAll_register (c : Consumer σ) (es : List Event) :
    ((register c).dispatchAll es).1 = register (c.fed es) ∧
      ((register c).dispatchAll es).2.events = es := by
  induction es generalizing c with
  | nil => exact ⟨rfl, rfl⟩
  | cons e es ih =>
    obtain ⟨state, events⟩ := ih (c.fed [e])
    unfold dispatchAll
    rw [dispatch_register]
    refine ⟨?_, ?_⟩
    · show (dispatchAll (register (c.fed [e])) es).1 = _
      rw [state, Consumer.fed_fed]
      rfl
    · rw [Trace.events_cons_dispatched, events]

theorem dispatchLed_register (c : Consumer σ) (e : Event) (es : List Event) :
    ((register c).dispatchLed e es).1 =
        register (c.fed (e :: if (c.verdictOn e).isConsumed then [] else es)) ∧
      ((register c).dispatchLed e es).2.events =
        e :: if (c.verdictOn e).isConsumed then [] else es := by
  unfold dispatchLed
  rw [dispatch_register]
  show (if (c.verdictOn e).isConsumed then _ else _ : Dispatcher σ × Trace).1 = _ ∧
    (if (c.verdictOn e).isConsumed then _ else _ : Dispatcher σ × Trace).2.events = _
  by_cases h : (c.verdictOn e).isConsumed
  · rw [if_pos h, if_pos h]
    exact ⟨rfl, rfl⟩
  · rw [if_neg h, if_neg h]
    obtain ⟨state, events⟩ := dispatchAll_register (c.fed [e]) es
    refine ⟨?_, ?_⟩
    · show (dispatchAll (register (c.fed [e])) es).1 = _
      rw [state, Consumer.fed_fed]
      rfl
    · rw [Trace.events_cons_dispatched, events]

/-- A consumer receives the events that its verdict on the leading one lets through. -/
theorem events_deliver_register (c : Consumer σ) (x : Delivery) :
    ((register c).deliver x).2.events = x.received (c.verdictOnLead x) := by
  unfold deliver Delivery.received Consumer.verdictOnLead
  cases x.lead with
  | none => simp
  | some e =>
    have led := (dispatchLed_register c e x.followers).2
    simp only [Trace.events_append, Trace.events_map_noted, List.nil_append, List.append_nil]
    exact led

/-- A delivery leaves the consumer fed with the events that it received. -/
theorem deliver_register (c : Consumer σ) (x : Delivery) :
    ((register c).deliver x).1 = register (c.fed ((register c).deliver x).2.events) := by
  rw [events_deliver_register]
  unfold deliver Delivery.received Consumer.verdictOnLead
  cases x.lead with
  | none => rfl
  | some e => exact (dispatchLed_register c e x.followers).1

/-- An event of a type that only leads is consumed by the verdict on the leading event. -/
theorem consumed_deliver_register (c : Consumer σ) {x : Delivery} {ty : EventType}
    (h : ∀ e ∈ x.followers, e.type ≠ ty) :
    ((register c).deliver x).2.consumed ty =
      x.lead.any fun e => e.type == ty && (c.verdictOn e).isConsumed := by
  unfold deliver
  cases x.lead with
  | none => simp [Trace.consumed]
  | some e =>
    simp only [Trace.consumed_append, Trace.consumed_map_noted, Bool.false_or, Bool.or_false,
      Option.any_some]
    unfold dispatchLed
    rw [dispatch_register]
    show Trace.consumed ty
      (if (c.verdictOn e).isConsumed then _ else _ : Dispatcher σ × Trace).2 = _
    by_cases hc : (c.verdictOn e).isConsumed
    · rw [if_pos hc]
      exact Bool.or_false _
    · rw [if_neg hc, Trace.consumed_cons_dispatched]
      have rest : Trace.consumed ty ((register (c.fed [e])).dispatchAll x.followers).2 = false := by
        apply Trace.consumed_eq_false
        rw [(dispatchAll_register (c.fed [e]) x.followers).2]
        exact h
      rw [rest, Bool.or_false]
      rfl

theorem event?_dispatch (d : Dispatcher σ) (e : Event) : (d.dispatch e).2.event? = some e := by
  unfold dispatch
  cases d.consumer? <;> rfl

theorem offered_dispatchAll (d : Dispatcher σ) (es : List Event) :
    (d.dispatchAll es).2.offered = es := by
  induction es generalizing d with
  | nil => rfl
  | cons e es ih =>
    show ((d.dispatch e).2 :: ((d.dispatch e).1.dispatchAll es).2).filterMap Emission.event? = _
    rw [List.filterMap_cons_some (event?_dispatch d e)]
    exact congrArg (List.cons e) (ih _)

theorem offered_dispatchLed (d : Dispatcher σ) (e : Event) (es : List Event) :
    (d.dispatchLed e es).2.offered =
      e :: if (d.dispatch e).2.verdict.isConsumed then [] else es := by
  unfold dispatchLed Trace.offered
  by_cases consumed : (d.dispatch e).2.verdict.isConsumed
  · simp only [if_pos consumed]
    exact List.filterMap_cons_some (event?_dispatch d e)
  · simp only [if_neg consumed]
    rw [List.filterMap_cons_some (event?_dispatch d e)]
    exact congrArg (List.cons e) (offered_dispatchAll _ es)

/-- Whatever goes to the dispatcher of a delivery is one of the events that it offers. -/
theorem offered_deliver_subset (d : Dispatcher σ) (x : Delivery) :
    (d.deliver x).2.offered ⊆ x.events := by
  unfold deliver
  simp only [Trace.offered_append, Trace.offered_map_noted, List.nil_append, List.append_nil]
  cases led : x.lead with
  | none => exact List.nil_subset _
  | some e =>
    show (d.dispatchLed e x.followers).2.offered ⊆ x.events
    rw [offered_dispatchLed, ← Delivery.received_of_lead led]
    exact x.received_subset _

/-- An event without followers goes to the dispatcher alone, whoever listens. -/
theorem offered_deliver_of_lone (d : Dispatcher σ) {x : Delivery} {e : Event}
    (led : x.lead = some e) (alone : x.followers = []) : (d.deliver x).2.offered = [e] := by
  unfold deliver
  simp only [Trace.offered_append, Trace.offered_map_noted, List.nil_append, List.append_nil, led,
    alone, offered_dispatchLed, ite_self]

/-- Whatever is received of a delivery is one of the events that it offers. -/
theorem events_deliver_subset (d : Dispatcher σ) (x : Delivery) :
    (d.deliver x).2.events ⊆ x.events :=
  fun _ received => d.offered_deliver_subset x (Trace.events_subset_offered _ received)

end Dispatcher

end Capture

end InputTap
