import InputTap.Capture.Normalizer
import InputTap.Proofs.Delivery
import InputTap.Proofs.Run

/-!
# One input of a normalizer

`Normalizer.onInput` is the step function whose runs are the histories of a normalizer; each input
brings the surroundings in which it is handled. A step moves the tracking by `Tracking.step`,
whatever the consumer does (`tracking_onInput`). What the step may dispatch is described once:
`stamped_of_mem` for the time and the mask of every event, `type_of_lead` and
`type_of_mem_followers` for the types.
-/

set_option autoImplicit false

namespace InputTap

namespace EventType

/-- The types of the events about the hook itself. -/
def hook : List EventType := [.hookEnabled, .hookDisabled]

/-- The types of the events that lead the delivery of an input. -/
def leading : List EventType :=
  [.key .pressed, .key .released, .mouse .pressed, .mouse .released, .mouse .moved,
   .mouse .dragged, .wheel]

end EventType

namespace Capture

namespace Tracking

/-- Motion on the point of the latest press delivers nothing. -/
theorem motion_of_none {t : Tracking} {w : Surroundings} {p : Point} {time : Millis}
    (h : t.clicks.motion? (w.stamp time) p w.threshold = none) :
    t.motion w p time = (t, { before := [.motionSuppressed] }) := by
  simp only [motion, h]

/-- The action that motion stands for. -/
def motionAction (t : Tracking) : MouseAction :=
  if t.keys.held.meets Mask.buttons then .dragged else .moved

/-- Motion elsewhere delivers one event, a drag while a button is held. -/
theorem motion_of_some {t : Tracking} {w : Surroundings} {p : Point} {time : Millis}
    {clicks : ClickRun} (h : t.clicks.motion? (w.stamp time) p w.threshold = some clicks) :
    ∃ data, t.motion w p time =
      ({ t with clicks },
        { before := [.motion t.motionAction data]
          lead := some ⟨w.stamp time, t.keys.held, .mouse t.motionAction data⟩ }) := by
  simp only [motion, h]
  exact ⟨_, rfl⟩

/-- A release leads, and a click with the same payload follows it at the remembered point. -/
theorem buttonUp_delivers (t : Tracking) (w : Surroundings) (b : RawButton) (p : Point)
    (time : Millis) :
    ∃ m data, data.button = some b.button ∧
      (t.step w (.buttonUp b p time)).2.lead = some ⟨w.stamp time, m, .mouse .released data⟩ ∧
      (t.step w (.buttonUp b p time)).2.followers =
        if t.clicks.isAt p then [⟨w.stamp time, m, .mouse .clicked data⟩] else [] :=
  ⟨_, _, rfl, rfl, rfl⟩

/-- An event of an input as the step that offers it stamps it. -/
structure Stamped (t : Tracking) (w : Surroundings) (raw : RawInput) (e : Event) : Prop where
  time : e.time = w.stamp raw.time
  mask : e.mask = (t.step w raw).1.keys.held
  input : e.isOf EventType.hook = false

/-- All events of an input have its time, the mask after it, and are no events of the hook. -/
theorem stamped_of_mem {t : Tracking} {w : Surroundings} {raw : RawInput} {e : Event}
    (h : e ∈ (t.step w raw).2.events) : t.Stamped w raw e := by
  cases raw with
  | keyDown vk extended time =>
    rcases List.mem_cons.1 h with rfl | h
    · exact ⟨rfl, rfl, rfl⟩
    · obtain ⟨c, -, rfl⟩ := List.mem_map.1 h
      exact ⟨rfl, rfl, rfl⟩
  | keyUp vk extended time =>
    rcases List.mem_cons.1 h with rfl | h
    · exact ⟨rfl, rfl, rfl⟩
    · cases h
  | buttonDown b p time =>
    rcases List.mem_cons.1 h with rfl | h
    · exact ⟨rfl, rfl, rfl⟩
    · cases h
  | buttonUp b p time =>
    rcases List.mem_cons.1 h with rfl | h
    · exact ⟨rfl, rfl, rfl⟩
    · have click : e ∈ if t.clicks.isAt p then [_] else [] := h
      split at click
      · obtain rfl := List.mem_singleton.1 click
        exact ⟨rfl, rfl, rfl⟩
      · cases click
  | motion p time =>
    have he : e ∈ (t.motion w p time).2.events := h
    show t.Stamped w (.motion p time) e
    cases hm : t.clicks.motion? (w.stamp time) p w.threshold with
    | none =>
      rw [motion_of_none hm] at he
      cases he
    | some clicks =>
      obtain ⟨data, moved⟩ := motion_of_some hm
      rw [moved] at he
      obtain rfl := List.mem_singleton.1 he
      refine ⟨rfl, ?_, ?_⟩
      · show t.keys.held = (t.motion w p time).1.keys.held
        rw [moved]
      · unfold motionAction
        split <;> rfl
  | wheel axis delta p time =>
    rcases List.mem_cons.1 h with rfl | h
    · exact ⟨rfl, rfl, rfl⟩
    · cases h
  | unrecognized message time => cases h

theorem type_of_lead {t : Tracking} {w : Surroundings} {raw : RawInput} {e : Event}
    (h : (t.step w raw).2.lead = some e) : e.type ∈ EventType.leading := by
  cases raw with
  | keyDown vk extended time =>
    obtain rfl := Option.some.inj h
    exact (by decide : .key .pressed ∈ EventType.leading)
  | keyUp vk extended time =>
    obtain rfl := Option.some.inj h
    exact (by decide : .key .released ∈ EventType.leading)
  | buttonDown b p time =>
    obtain rfl := Option.some.inj h
    exact (by decide : .mouse .pressed ∈ EventType.leading)
  | buttonUp b p time =>
    obtain rfl := Option.some.inj h
    exact (by decide : .mouse .released ∈ EventType.leading)
  | motion p time =>
    have led : (t.motion w p time).2.lead = some e := h
    cases hm : t.clicks.motion? (w.stamp time) p w.threshold with
    | none =>
      rw [motion_of_none hm] at led
      cases led
    | some clicks =>
      obtain ⟨data, moved⟩ := motion_of_some hm
      rw [moved] at led
      obtain rfl := Option.some.inj led
      show EventType.mouse t.motionAction ∈ EventType.leading
      unfold motionAction
      split <;> decide
  | wheel axis delta p time =>
    obtain rfl := Option.some.inj h
    exact (by decide : .wheel ∈ EventType.leading)
  | unrecognized message time => cases h

/-- Only characters and clicks follow, and a click follows the release of a button. -/
theorem type_of_mem_followers {t : Tracking} {w : Surroundings} {raw : RawInput} {e : Event}
    (h : e ∈ (t.step w raw).2.followers) :
    e.type = .key .typed ∨ e.type = .mouse .clicked ∧ ∃ b p time, raw = .buttonUp b p time := by
  cases raw with
  | keyDown vk extended time =>
    obtain ⟨c, -, rfl⟩ := List.mem_map.1 h
    exact .inl rfl
  | buttonUp b p time =>
    have click : e ∈ if t.clicks.isAt p then [_] else [] := h
    split at click
    · obtain rfl := List.mem_singleton.1 click
      exact .inr ⟨rfl, b, p, time, rfl⟩
    · cases click
  | motion p time =>
    have followed : e ∈ (t.motion w p time).2.followers := h
    cases hm : t.clicks.motion? (w.stamp time) p w.threshold with
    | none =>
      rw [motion_of_none hm] at followed
      cases followed
    | some clicks =>
      obtain ⟨data, moved⟩ := motion_of_some hm
      rw [moved] at followed
      cases followed
  | keyUp vk extended time => cases h
  | buttonDown b p time => cases h
  | wheel axis delta p time => cases h
  | unrecognized message time => cases h

end Tracking

namespace Normalizer

variable {σ : Type}

/-- Handles one input in its surroundings. -/
def onInput (n : Normalizer σ) (i : Surroundings × RawInput) : Normalizer σ × Trace :=
  n.handle i.1 i.2

/-- The tracking moves by the input alone. -/
@[simp] theorem tracking_onInput (n : Normalizer σ) (i : Surroundings × RawInput) :
    (n.onInput i).1.tracking = (n.tracking.step i.1 i.2).1 := rfl

theorem trace_onInput (n : Normalizer σ) (i : Surroundings × RawInput) :
    (n.onInput i).2 = (n.dispatcher.deliver (n.tracking.step i.1 i.2).2).2 := rfl

theorem dispatcher_onInput (n : Normalizer σ) (i : Surroundings × RawInput) :
    (n.onInput i).1.dispatcher = (n.dispatcher.deliver (n.tracking.step i.1 i.2).2).1 := rfl

/-- An input leaves the consumer fed with what it received. -/
theorem dispatcher_onInput_register {n : Normalizer σ} {c : Consumer σ}
    (h : n.dispatcher = .register c) (i : Surroundings × RawInput) :
    (n.onInput i).1.dispatcher = .register (c.fed (n.onInput i).2.events) := by
  rw [dispatcher_onInput, trace_onInput, h]
  exact Dispatcher.deliver_register c _

theorem stamped_onInput {n : Normalizer σ} {i : Surroundings × RawInput} {e : Event}
    (h : e ∈ (n.onInput i).2.events) : n.tracking.Stamped i.1 i.2 e :=
  Tracking.stamped_of_mem (n.dispatcher.events_deliver_subset _ h)

end Normalizer

end Capture

end InputTap
