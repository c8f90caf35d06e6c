import InputTap.Proofs.Delivery

/-!
# Verdicts on an input

A consumer answers the events of an input one after the other, each in the state that the earlier
ones have left it in: `Consumer.replies` lists these answers for a list of events, and
`Consumer.verdicts` the verdicts in them. The trace of a delivery shows these answers and the facts
that were noted (`trace_deliver_register`), and the verdict of the trace is to consume as soon as
one of them is (`verdict_eq_consume_iff`).
-/

set_option autoImplicit false

namespace InputTap

theorem Verdict.or_pass (v : Verdict) : v.or .pass = v := by
  cases v <;> rfl

namespace Capture

variable {σ : Type}

/-- The verdicts of a consumer on events that it receives one after the other. -/
def Consumer.verdicts (c : Consumer σ) : List Event → List Verdict
  | [] => []
  | e :: es => c.verdictOn e :: (c.fed [e]).verdicts es

/-- The events that a consumer receives one after the other, each with the answer to it. -/
def Consumer.replies (c : Consumer σ) : List Event → List (Event × Answer)
  | [] => []
  | e :: es => (e, (c.answer e c.state).1) :: (c.fed [e]).replies es

theorem Consumer.replies_append (c : Consumer σ) (es fs : List Event) :
    c.replies (es ++ fs) = c.replies es ++ (c.fed es).replies fs := by
  induction es generalizing c with
  | nil => rfl
  | cons e es ih => exact congrArg ((e, (c.answer e c.state).1) :: ·) (ih (c.fed [e]))

theorem Consumer.map_verdict_replies (c : Consumer σ) (es : List Event) :
    (c.replies es).map (fun r => r.2.verdict) = c.verdicts es := by
  induction es generalizing c with
  | nil => rfl
  | cons e es ih => exact congrArg (c.verdictOn e :: ·) (ih (c.fed [e]))

/-- The consumer passes every event. -/
def Consumer.PassesAll (c : Consumer σ) : Prop := ∀ e s, (c.answer e s).1.verdict = .pass

theorem Consumer.PassesAll.fed {c : Consumer σ} (h : c.PassesAll) (es : List Event) :
    (c.fed es).PassesAll := h

theorem Consumer.PassesAll.verdictOnLead {c : Consumer σ} (h : c.PassesAll) (x : Delivery) :
    c.verdictOnLead x = .pass := by
  unfold Consumer.verdictOnLead
  cases x.lead with
  | none => rfl
  | some e => exact h e c.state

theorem Consumer.passesAll_passing : Consumer.passing.PassesAll := fun _ _ => rfl

/-- An event that was received and answered. -/
def Emission.ofReply (r : Event × Answer) : Emission := .dispatched r.1 r.2

namespace Trace

/-- The events that the consumer received, each with the answer to it. -/
def replies (t : Trace) : List (Event × Answer) :=
  t.filterMap fun
    | .dispatched e a => some (e, a)
    | _ => none

@[simp] theorem replies_append (a b : Trace) :
    Trace.replies (a ++ b) = Trace.replies a ++ Trace.replies b :=
  List.filterMap_append

@[simp] theorem replies_map_noted (ns : List Notice) : Trace.replies (ns.map .noted) = [] := by
  induction ns with
  | nil => rfl
  | cons n ns ih => exact ih

theorem replies_map_ofReply (rs : List (Event × Answer)) :
    Trace.replies (rs.map Emission.ofReply) = rs := by
  induction rs with
  | nil => rfl
  | cons r rs ih => exact congrArg (r :: ·) ih

theorem replies_cons_dispatched (e : Event) (a : Answer) (t : Trace) :
    Trace.replies (.dispatched e a :: t) = (e, a) :: Trace.replies t := rfl

/-- A trace asks for a stop as soon as one of its answers does. -/
theorem stops_pos_iff (t : Trace) : 0 < t.stops ↔ ∃ r ∈ t.replies, 0 < r.2.stops := by
  induction t with
  | nil => simp [stops, replies]
  | cons m t ih =>
    show 0 < m.stops + Trace.stops t ↔ _
    rw [Nat.add_pos_iff_pos_or_pos, ih]
    cases m with
    | noted n => exact or_iff_right (Nat.lt_irrefl 0)
    | dropped e => exact or_iff_right (Nat.lt_irrefl 0)
    | dispatched e a =>
      rw [replies_cons_dispatched]
      simp only [List.mem_cons, or_and_right, exists_or, exists_eq_left]
      rfl

/-- The verdicts that the consumer gave, in order. -/
def answers (t : Trace) : List Verdict :=
  t.filterMap fun
    | .dispatched _ a => some a.verdict
    | _ => none

theorem map_verdict_replies (t : Trace) :
    t.replies.map (fun r => r.2.verdict) = t.answers := by
  unfold replies answers
  rw [List.map_filterMap]
  congr 1
  funext m
  cases m <;> rfl

theorem answers_cons_dispatched (e : Event) (a : Answer) (t : Trace) :
    Trace.answers (.dispatched e a :: t) = a.verdict :: Trace.answers t := rfl

/-- Folding verdicts consumes when it started so or one of them does. -/
theorem foldl_or_eq_consume_iff (t : Trace) (v : Verdict) :
    t.foldl (fun v e => v.or e.verdict) v = .consume ↔ v = .consume ∨ .consume ∈ t.answers := by
  induction t generalizing v with
  | nil => exact ⟨.inl, fun h => h.resolve_right List.not_mem_nil⟩
  | cons m t ih =>
    rw [List.foldl_cons, ih]
    cases m with
    | noted n =>
      show v.or .pass = .consume ∨ _ ↔ _
      rw [Verdict.or_pass]
      rfl
    | dropped e =>
      show v.or .pass = .consume ∨ _ ↔ _
      rw [Verdict.or_pass]
      rfl
    | dispatched e a =>
      rw [answers_cons_dispatched, List.mem_cons]
      show v.or a.verdict = .consume ∨ _ ↔ _
      cases v with
      | pass =>
        rw [show Verdict.pass.or a.verdict = a.verdict from rfl, eq_comm (a := a.verdict)]
        exact ⟨.inr, fun h => h.resolve_left Verdict.noConfusion⟩
      | consume => exact ⟨fun _ => .inl rfl, fun _ => .inl rfl⟩

/-- A trace consumes as soon as the consumer has consumed one event. -/
theorem verdict_eq_consume_iff (t : Trace) : t.verdict = .consume ↔ .consume ∈ t.answers := by
  unfold verdict
  rw [foldl_or_eq_consume_iff]
  exact ⟨fun h => h.resolve_left Verdict.noConfusion, .inr⟩

end Trace

namespace Dispatcher

theorem trace_dispatchAll_register (c : Consumer σ) (es : List Event) :
    ((register c).dispatchAll es).2 = (c.replies es).map Emission.ofReply := by
  induction es generalizing c with
  | nil => rfl
  | cons e es ih => exact congrArg (Emission.ofReply (e, _) :: ·) (ih (c.fed [e]))

theorem trace_dispatchLed_register (c : Consumer σ) (e : Event) (es : List Event) :
    ((register c).dispatchLed e es).2 =
      (c.replies (e :: if (c.verdictOn e).isConsumed then [] else es)).map Emission.ofReply := by
  unfold dispatchLed
  rw [dispatch_register]
  show (if (c.verdictOn e).isConsumed then _ else _ : Dispatcher σ × Trace).2 = _
  by_cases consumed : (c.verdictOn e).isConsumed
  · rw [if_pos consumed, if_pos consumed]
    rfl
  · rw [if_neg consumed, if_neg consumed]
    exact congrArg (Emission.ofReply (e, _) :: ·) (trace_dispatchAll_register (c.fed [e]) es)

/-- A delivery leaves the trace of what it notes and of the answers to what is received. -/
theorem trace_deliver_register (c : Consumer σ) (x : Delivery) :
    ((register c).deliver x).2 =
      x.before.map .noted ++ (c.replies (x.received (c.verdictOnLead x))).map Emission.ofReply ++
        x.after.map .noted := by
  unfold deliver Delivery.received Consumer.verdictOnLead
  cases x.lead with
  | none => rfl
  | some e =>
    show _ ++ ((register c).dispatchLed e x.followers).2 ++ _ = _
    rw [trace_dispatchLed_register]
    rfl

/-- The answers that a delivery records are those to the events that it hands over. -/
theorem replies_deliver_register (c : Consumer σ) (x : Delivery) :
    ((register c).deliver x).2.replies = c.replies ((register c).deliver x).2.events := by
  rw [events_deliver_register, trace_deliver_register, Trace.replies_append, Trace.replies_append,
    Trace.replies_map_noted, Trace.replies_map_noted, Trace.replies_map_ofReply, List.nil_append,
    List.append_nil]

theorem answers_deliver_register (c : Consumer σ) (x : Delivery) :
    ((register c).deliver x).2.answers = c.verdicts ((register c).deliver x).2.events := by
  rw [← Trace.map_verdict_replies, replies_deliver_register, Consumer.map_verdict_replies]

/-- The first event that a delivery hands over is consumed by the verdict on its leading one. -/
theorem head?_verdicts_deliver (c : Consumer σ) (x : Delivery) :
    decide ((c.verdicts ((register c).deliver x).2.events).head? = some .consume) =
      (c.verdictOnLead x).isConsumed := by
  rw [events_deliver_register]
  unfold Delivery.received Consumer.verdictOnLead
  cases x.lead with
  | none => rfl
  | some e =>
    show decide (some (c.verdictOn e) = some .consume) = (c.verdictOn e).isConsumed
    cases c.verdictOn e <;> rfl

end Dispatcher

end Capture

end InputTap
