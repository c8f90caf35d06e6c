import InputTap.Proofs.Mask.Bits
import InputTap.Proofs.Normalizer.Step
import InputTap.Proofs.Verdicts

/-!
# The events of one input

`Tracking.reports` lists what an input makes a consumer hear: the event that leads, and the events
that follow unless the consumer consumed that one. All of them carry one time and one mask, and the
verdict on the input is to consume exactly if the consumer consumed one of them.
-/

set_option autoImplicit false

namespace InputTap.Capture

namespace Tracking

/-- What an input reports to a consumer, given the tracking before and after it and whether the
first event was consumed. -/
def reports (before after : Tracking) (w : Surroundings) (consumed : Bool) :
    RawInput → List EventKind
  | .keyDown vk extended _ =>
    .key .pressed { code := w.layout.place vk extended, rawCode := vk } ::
      if consumed then [] else
        (w.layout.typed vk after.keys.typingMask).map fun c =>
          .key .typed { code := .undefined, rawCode := vk, char := some c }
  | .keyUp vk extended _ =>
    [.key .released { code := w.layout.place vk extended, rawCode := vk }]
  | .buttonDown b p _ =>
    [.mouse .pressed { button := some b.button, clicks := after.clicks.count,
                       x := p.eventX, y := p.eventY }]
  | .buttonUp b p _ =>
    let data : MouseData := { button := some b.button, clicks := before.clicks.count,
                              x := p.eventX, y := p.eventY }
    .mouse .released data ::
      if consumed = false ∧ before.clicks.point = some p then [.mouse .clicked data] else []
  | .motion p _ =>
    if before.clicks.point = some p then [] else
      let dragging := Mask.buttonBits.any fun i => after.keys.held.has i
      [.mouse (if dragging then .dragged else .moved)
        { button := none, clicks := after.clicks.count, x := p.eventX, y := p.eventY }]
  | .wheel axis delta p _ =>
    [.wheel { clicks := after.clicks.count, x := p.eventX, y := p.eventY
              scroll := w.scroll.1, amount := w.scroll.2
              rotation := match axis with
                | .vertical => Saturate.negInt16 delta
                | .horizontal => delta
              axis }]
  | .unrecognized _ _ => []

/-- Motion on the remembered point, and only there, is suppressed. -/
theorem motion?_eq_none_iff {r : ClickRun} {now : Millis} {p : Point} {threshold : Millis} :
    r.motion? now p threshold = none ↔ r.point = some p := by
  unfold ClickRun.motion? ClickRun.isAt
  constructor
  · intro h
    split at h
    · next here => exact beq_iff_eq.1 here
    · split at h <;> cases h
  · intro h
    rw [h, if_pos (beq_self_eq_true _)]

/-- What reaches a consumer of the delivery of an input are its reports, stamped. -/
theorem received_step (t : Tracking) (w : Surroundings) (raw : RawInput) (v : Verdict) :
    (t.step w raw).2.received v =
      (t.reports (t.step w raw).1 w v.isConsumed raw).map fun kind =>
        ⟨w.stamp raw.time, (t.step w raw).1.keys.held, kind⟩ := by
  cases raw with
  | keyDown vk extended time =>
    cases v with
    | consume => rfl
    | pass =>
      have typed := List.map_map (g := fun kind : EventKind =>
          (⟨w.stamp time, (t.keyDown w vk extended time).1.keys.held, kind⟩ : Event))
        (f := fun c => .key .typed { code := .undefined, rawCode := vk, char := some c })
        (l := w.layout.typed vk (t.keyDown w vk extended time).1.keys.typingMask)
      exact congrArg (List.cons _) typed.symm
  | keyUp vk extended time => cases v <;> rfl
  | buttonDown b p time => cases v <;> rfl
  | buttonUp b p time =>
    cases v with
    | consume => rfl
    | pass =>
      show _ :: (if t.clicks.isAt p then _ else []) =
        _ :: (if false = false ∧ t.clicks.point = some p then _ else []).map _
      by_cases here : t.clicks.point = some p
      · have at_ : t.clicks.isAt p = true := beq_iff_eq.2 here
        rw [if_pos at_, if_pos ⟨rfl, here⟩]
        rfl
      · have away : ¬ t.clicks.isAt p = true := fun h => here (beq_iff_eq.1 h)
        rw [if_neg away, if_neg fun h => here h.2]
        rfl
  | motion p time =>
    show (t.motion w p time).2.received v =
      (t.reports (t.motion w p time).1 w v.isConsumed (.motion p time)).map fun kind =>
        (⟨w.stamp time, (t.motion w p time).1.keys.held, kind⟩ : Event)
    cases hm : t.clicks.motion? (w.stamp time) p w.threshold with
    | none =>
      rw [motion_of_none hm]
      show [] = (if t.clicks.point = some p then [] else _).map _
      rw [if_pos (motion?_eq_none_iff.1 hm)]
      rfl
    | some clicks =>
      have away : t.clicks.point ≠ some p := fun here => by
        rw [motion?_eq_none_iff.2 here] at hm
        cases hm
      have data : (t.motion w p time).2.lead = some ⟨w.stamp time, t.keys.held,
          .mouse t.motionAction { button := none, clicks := clicks.count,
                                  x := p.eventX, y := p.eventY }⟩ := by
        simp only [motion, hm]
        rfl
      obtain ⟨_, moved⟩ := motion_of_some hm
      rw [moved] at data ⊢
      rw [Delivery.received_of_lead data]
      show _ :: (if v.isConsumed then [] else []) =
        (if t.clicks.point = some p then [] else _).map _
      rw [if_neg away, ite_self, ← Mask.meets_buttons]
      rfl
  | wheel axis delta p time => cases v <;> rfl
  | unrecognized message time => rfl

/-- The events that an input offers are its reports. -/
theorem reported_of_mem_events {t : Tracking} {w : Surroundings} {raw : RawInput} {e : Event}
    (h : e ∈ (t.step w raw).2.events) : e.kind ∈ t.reports (t.step w raw).1 w false raw := by
  unfold Delivery.events at h
  rw [received_step] at h
  obtain ⟨kind, reported, rfl⟩ := List.mem_map.1 h
  exact reported

end Tracking

namespace Normalizer

variable {σ : Type}

/-- A consumer that passes everything receives all that an input reports. -/
theorem events_onInput_of_passesAll {n : Normalizer σ} {c : Consumer σ}
    (hc : n.dispatcher = .register c) (passes : c.PassesAll) (w : Surroundings) (raw : RawInput) :
    (n.onInput (w, raw)).2.events =
      (n.tracking.reports (n.onInput (w, raw)).1.tracking w false raw).map fun kind =>
        ⟨w.stamp raw.time, (n.onInput (w, raw)).1.held, kind⟩ := by
  rw [trace_onInput, hc, Dispatcher.events_deliver_register, passes.verdictOnLead]
  exact n.tracking.received_step w raw .pass

/-- While a consumer passes everything it receives all that the inputs report, each in its turn. -/
theorem events_of_mem_steps {t : Tracking} {c : Consumer σ} (passes : c.PassesAll)
    {inputs : List (Surroundings × RawInput)} :
    ∀ st ∈ Run.steps onInput { tracking := t, dispatcher := .register c } inputs,
      st.output.events =
        (st.before.tracking.reports st.after.tracking st.input.1 false st.input.2).map fun kind =>
          ⟨st.input.1.stamp st.input.2.time, st.after.held, kind⟩ := by
  refine Run.forall_steps
    (fun n : Normalizer σ => ∃ c, n.dispatcher = .register c ∧ c.PassesAll) ?_ ?_
    ⟨c, rfl, passes⟩ inputs
  · rintro n i ⟨c, hc, passes⟩
    exact ⟨_, dispatcher_onInput_register hc i, passes.fed _⟩
  · rintro n ⟨w, raw⟩ ⟨c, hc, passes⟩
    exact events_onInput_of_passesAll hc passes w raw

/-- **The events and the verdict of one input.** In every state and with every consumer, an input
makes the consumer receive what the input reports, in order and once each, all under the mask after
the input and at the time of the input or of the wall clock; and the verdict on the input is to
consume exactly if the consumer, answering these events one after the other, consumed one of
them. -/
theorem events_and_verdict (t : Tracking) (w : Surroundings) (c : Consumer σ) (raw : RawInput) :
    let after := (onInput { tracking := t, dispatcher := .register c } (w, raw)).1
    let trace := (onInput { tracking := t, dispatcher := .register c } (w, raw)).2
    trace.events =
        (t.reports after.tracking w ((c.verdicts trace.events).head? = some .consume) raw).map
          (fun kind =>
            { time := match w.options.clock with
                | .hook => raw.time
                | .wall => w.wallTime
              mask := after.held
              kind }) ∧
      after.dispatcher = .register (c.fed trace.events) ∧
      (trace.verdict = .consume ↔ .consume ∈ c.verdicts trace.events) := by
  intro after trace
  have delivered : trace = ((Dispatcher.register c).deliver (t.step w raw).2).2 := rfl
  refine ⟨?_, dispatcher_onInput_register rfl (w, raw), ?_⟩
  · rw [delivered, Dispatcher.head?_verdicts_deliver, Dispatcher.events_deliver_register]
    exact t.received_step w raw _
  · rw [delivered, Trace.verdict_eq_consume_iff, Dispatcher.answers_deliver_register]

end Normalizer

end InputTap.Capture
