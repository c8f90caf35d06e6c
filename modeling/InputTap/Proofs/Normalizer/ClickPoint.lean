import InputTap.Proofs.Normalizer.Undisturbed

/-!
# Where clicks happen

The click run remembers one point, that of the latest press of any button (`point_final`). A release
that passes there is a click of the button released, whichever button was pressed: `click_iff` gives
the releases that click, and those among them whose button was not pressed last at that point.
-/

set_option autoImplicit false

namespace InputTap.Capture

namespace RawInput

/-- The button and the point of an input that is a press of a button. -/
def press? : RawInput → Option (Button × Point)
  | .buttonDown b p _ => some (b.button, p)
  | _ => none

/-- The button and the point of an input that is a release of a button. -/
def release? : RawInput → Option (Button × Point)
  | .buttonUp b p _ => some (b.button, p)
  | _ => none

end RawInput

/-- The presses of buttons in a history, in order. -/
def presses (inputs : List (Surroundings × RawInput)) : List (Button × Point) :=
  inputs.filterMap fun i => i.2.press?

/-- The latest press of a history, of whatever button. -/
def latestPress (inputs : List (Surroundings × RawInput)) : Option (Button × Point) :=
  (presses inputs).getLast?

/-- The point of the latest press of a button in a history. -/
def latestPressOf (b : Button) (inputs : List (Surroundings × RawInput)) : Option Point :=
  ((presses inputs).filter fun x => x.1 = b).getLast?.map Prod.snd

/-- When the latest press of all was one of this button, it is the latest of the button. -/
theorem latestPressOf_of_latestPress {b : Button} {p : Point}
    {inputs : List (Surroundings × RawInput)} (h : latestPress inputs = some (b, p)) :
    latestPressOf b inputs = some p := by
  obtain ⟨before, hb⟩ := List.getLast?_eq_some_iff.1 h
  unfold latestPressOf
  rw [hb, List.filter_append, List.getLast?_append]
  simp

namespace Tracking

/-- A press moves the remembered point, and nothing else does. -/
theorem point_step (t : Tracking) (w : Surroundings) (raw : RawInput) :
    (t.step w raw).1.clicks.point = (raw.press?.map fun x => some x.2).getD t.clicks.point := by
  cases raw with
  | keyDown vk extended time => rfl
  | keyUp vk extended time => rfl
  | buttonDown b p time => rfl
  | buttonUp b p time =>
    show (t.clicks.release b.button (w.stamp time) w.threshold).point = t.clicks.point
    unfold ClickRun.release
    split <;> rfl
  | motion p time =>
    show (t.motion w p time).1.clicks.point = t.clicks.point
    cases hm : t.clicks.motion? (w.stamp time) p w.threshold with
    | none => rw [motion_of_none hm]
    | some clicks =>
      obtain ⟨data, moved⟩ := motion_of_some hm
      rw [moved]
      unfold ClickRun.motion? at hm
      split at hm
      · cases hm
      · split at hm <;> obtain rfl := Option.some.inj hm <;> rfl
  | wheel axis delta p time => rfl
  | unrecognized message time => rfl

end Tracking

namespace Normalizer

variable {σ : Type}

/-- The remembered point is that of the latest press. -/
theorem point_final (d : Dispatcher σ) (inputs : List (Surroundings × RawInput)) :
    (Run.final onInput { dispatcher := d } inputs).tracking.clicks.point =
      (latestPress inputs).map Prod.snd := by
  have last := Run.view_final_of_input (f := onInput)
    (fun n : Normalizer σ => n.tracking.clicks.point)
    (fun i : Surroundings × RawInput => i.2.press?.map fun x => some x.2)
    (fun n i => by exact n.tracking.point_step i.1 i.2) { dispatcher := d } inputs
  rw [last]
  unfold latestPress presses
  rw [← List.map_filterMap, List.getLast?_map]
  cases (inputs.filterMap fun i => i.2.press?).getLast? with
  | none => rfl
  | some x => rfl

theorem follows_final {t : Tracking} {n : Normalizer σ} (h : n.Follows t)
    (inputs : List (Surroundings × RawInput)) : ∃ u, (Run.final onInput n inputs).Follows u :=
  Run.final_of_invariant (fun n : Normalizer σ => ∃ u, n.Follows u) (f := onInput)
    (fun _ i ⟨_, h⟩ => ⟨_, follows_onInput h i⟩) ⟨t, h⟩ inputs

end Normalizer

/-- The consumer received a click of this button. -/
def Trace.Clicks (t : Trace) (b : Button) : Prop :=
  ∃ e ∈ t.events, ∃ d, e.kind = .mouse .clicked d ∧ d.button = some b

namespace Normalizer

variable {σ : Type}

/-- The trace of one more input after a history that a consumer has followed from the start. -/
def traceAfter (c : Consumer σ) (inputs : List (Surroundings × RawInput)) (w : Surroundings)
    (raw : RawInput) : Trace :=
  ((Run.final onInput { dispatcher := .register c } inputs).onInput (w, raw)).2

/-- Only the release of a button clicks, and it clicks that button. -/
theorem release_of_clicks {d : Dispatcher σ} {t : Tracking} {w : Surroundings} {raw : RawInput}
    {b : Button} (h : (d.deliver (t.step w raw).2).2.Clicks b) :
    ∃ p, raw.release? = some (b, p) := by
  obtain ⟨e, he, data, hk, hb⟩ := h
  have clicked : e.type = .mouse .clicked := by
    unfold Event.type
    rw [hk]
    rfl
  rcases Delivery.mem_events (d.events_deliver_subset _ he) with leads | follows
  · have led := Tracking.type_of_lead leads
    rw [clicked] at led
    exact absurd led (by decide)
  · rcases Tracking.type_of_mem_followers follows with typed | ⟨-, rb, p, time, rfl⟩
    · rw [clicked] at typed
      cases typed
    · have click : e ∈ if t.clicks.isAt p then [_] else [] := follows
      split at click
      · obtain rfl := List.mem_singleton.1 click
        obtain rfl := (EventKind.mouse.inj hk).2
        exact ⟨p, congrArg (fun b => some (b, p)) (Option.some.inj hb)⟩
      · cases click

/-- A release clicks where it passes at the remembered point. -/
theorem clicks_buttonUp (c : Consumer σ) (t : Tracking) (w : Surroundings) (rb : RawButton)
    (p : Point) (time : Millis) :
    ((Dispatcher.register c).deliver (t.step w (.buttonUp rb p time)).2).2.Clicks rb.button ↔
      ((Dispatcher.register c).deliver (t.step w (.buttonUp rb p time)).2).2.consumed
          (.mouse .released) = false ∧ t.clicks.point = some p := by
  rw [Dispatcher.consumed_deliver_register c (released_not_following (i := (w, _)))]
  unfold Trace.Clicks
  obtain ⟨m, data, hb, lead, followers⟩ := t.buttonUp_delivers w rb p time
  rw [Dispatcher.events_deliver_register, Delivery.received_of_lead lead, followers, lead]
  unfold Consumer.verdictOnLead
  rw [lead]
  show (∃ e ∈ _ :: (if (c.verdictOn _).isConsumed then [] else if t.clicks.isAt p then [_] else []),
    _) ↔ (c.verdictOn _).isConsumed = false ∧ _
  constructor
  · rintro ⟨e, he, data', hk, -⟩
    rcases List.mem_cons.1 he with rfl | he
    · cases hk
    · split at he
      · cases he
      · next passed =>
        split at he
        · next here =>
          exact ⟨by simpa using passed, by simpa [ClickRun.isAt] using here⟩
        · cases he
  · rintro ⟨passed, hp⟩
    have here : t.clicks.isAt p = true := by
      unfold ClickRun.isAt
      rw [hp, beq_self_eq_true]
    rw [passed, here]
    exact ⟨_, List.mem_cons_of_mem _ List.mem_cons_self, _, rfl, hb⟩

/-- The input is a release of `b` at `p`, and the consumer did not consume it. -/
def ReleasePasses (raw : RawInput) (t : Trace) (b : Button) (p : Point) : Prop :=
  raw.release? = some (b, p) ∧ t.consumed (.mouse .released) = false

/-- The input is a release of `b` at `p`, and the consumer received a click of `b` with it. -/
def ClicksAt (raw : RawInput) (t : Trace) (b : Button) (p : Point) : Prop :=
  raw.release? = some (b, p) ∧ t.Clicks b

theorem clicksAt_iff (c : Consumer σ) (inputs : List (Surroundings × RawInput)) (w : Surroundings)
    (raw : RawInput) (b : Button) (p : Point) :
    ClicksAt raw (traceAfter c inputs w raw) b p ↔
      ReleasePasses raw (traceAfter c inputs w raw) b p ∧
        ∃ b', latestPress inputs = some (b', p) := by
  have remembered := point_final (.register c) inputs
  obtain ⟨u, hu, c', hc'⟩ := follows_final (n := { dispatcher := .register c }) ⟨rfl, c, rfl⟩ inputs
  unfold ClicksAt ReleasePasses traceAfter
  rw [trace_onInput, hc', hu]
  rw [hu] at remembered
  cases raw with
  | buttonUp rb q time =>
    constructor
    · rintro ⟨hr, clicks⟩
      obtain ⟨rfl, rfl⟩ := Prod.mk.inj (Option.some.inj hr)
      obtain ⟨passed, here⟩ := (clicks_buttonUp c' u w rb q time).1 clicks
      rw [remembered] at here
      obtain ⟨⟨b', _⟩, hl, rfl⟩ := Option.map_eq_some_iff.1 here
      exact ⟨⟨rfl, passed⟩, b', hl⟩
    · rintro ⟨⟨hr, passed⟩, b', hl⟩
      obtain ⟨rfl, rfl⟩ := Prod.mk.inj (Option.some.inj hr)
      rw [hl] at remembered
      exact ⟨rfl, (clicks_buttonUp c' u w rb q time).2 ⟨passed, remembered⟩⟩
  | _ => simp [RawInput.release?]

/-- **A click is a release at the point of the latest press.** On any history of a new normalizer
and with any consumer, only the release of a button clicks it, and it does so exactly if it passes
and the latest press, of whatever button, was at its point. So a click can lack a press of its own
button at its point; it does so exactly if the latest press was one of another button and the latest
press of its own button, if there is one, was elsewhere. -/
theorem click_iff (c : Consumer σ) (inputs : List (Surroundings × RawInput)) (w : Surroundings)
    (raw : RawInput) (b : Button) :
    ((traceAfter c inputs w raw).Clicks b → ∃ p, ClicksAt raw (traceAfter c inputs w raw) b p) ∧
      ∀ p, (ClicksAt raw (traceAfter c inputs w raw) b p ↔
          ReleasePasses raw (traceAfter c inputs w raw) b p ∧
            ∃ b', latestPress inputs = some (b', p)) ∧
        (ClicksAt raw (traceAfter c inputs w raw) b p ∧ latestPressOf b inputs ≠ some p ↔
          ReleasePasses raw (traceAfter c inputs w raw) b p ∧
            (∃ b', b' ≠ b ∧ latestPress inputs = some (b', p)) ∧
            latestPressOf b inputs ≠ some p) := by
  refine ⟨?_, fun p => ⟨clicksAt_iff c inputs w raw b p, ?_⟩⟩
  · intro clicks
    obtain ⟨p, released⟩ := release_of_clicks clicks
    exact ⟨p, released, clicks⟩
  rw [clicksAt_iff]
  constructor
  · rintro ⟨⟨passes, b', hl⟩, elsewhere⟩
    refine ⟨passes, ⟨b', ?_, hl⟩, elsewhere⟩
    rintro rfl
    exact elsewhere (latestPressOf_of_latestPress hl)
  · rintro ⟨passes, ⟨b', -, hl⟩, elsewhere⟩
    exact ⟨⟨passes, b', hl⟩, elsewhere⟩

/-- A press of the left button and a release of the right one at the same point click the right
button, which was never pressed. -/
theorem click_without_press :
    ClicksAt (.buttonUp .right ⟨5, 5⟩ 2)
        (traceAfter .passing [({}, .buttonDown .left ⟨5, 5⟩ 1)] {} (.buttonUp .right ⟨5, 5⟩ 2))
        .right ⟨5, 5⟩ ∧
      latestPressOf .right [({}, .buttonDown .left ⟨5, 5⟩ 1)] = none := by
  refine ⟨⟨rfl, ⟨2, .button1, .mouse .clicked ⟨some .right, 1, 5, 5⟩⟩, ?_, _, rfl, rfl⟩, rfl⟩
  decide

end Normalizer

end InputTap.Capture
