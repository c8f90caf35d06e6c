import InputTap.Proofs.ClickRun.Expiry
import InputTap.Proofs.Normalizer.Events

/-!
# The counts of presses and clicks

The click run of a normalizer is told of presses, releases, motion and wheel notches, each at the
time that its events are stamped with and under the threshold of its surroundings (`clickCalls`).
The press of a button counts itself. A click reports the count that the inputs before its release
have left, and that may have expired although the point of the press is kept
(`click_counts_zero_iff`).
-/

set_option autoImplicit false

namespace InputTap.Capture

open ClickCall (Timed Expired latestPressAt)

/-- What the click run is told of an input. -/
def RawInput.clickCall? (w : Surroundings) : RawInput → Option ClickCall
  | .buttonDown b p time => some (.press b.button (w.stamp time) p)
  | .buttonUp b p time => some (.release b.button (w.stamp time) p)
  | .motion p time => some (.motion (w.stamp time) p)
  | .wheel .. => some .wheel
  | .keyDown .. | .keyUp .. | .unrecognized .. => none

/-- What the click run is told of a history, each time under the threshold in force. -/
def clickCalls (inputs : List (Surroundings × RawInput)) : List Timed :=
  inputs.filterMap fun i => (i.2.clickCall? i.1).map fun call => (i.1.threshold, call)

theorem clickCalls_append_singleton (inputs : List (Surroundings × RawInput)) (w : Surroundings)
    (raw : RawInput) :
    clickCalls (inputs ++ [(w, raw)]) =
      clickCalls inputs ++ ((raw.clickCall? w).map fun call => (w.threshold, call)).toList := by
  unfold clickCalls
  rw [List.filterMap_append]
  cases told : raw.clickCall? w <;> simp [told]

namespace Tracking

/-- An input moves the click run by what it is told, and leaves it otherwise. -/
theorem clicks_step (t : Tracking) (w : Surroundings) (raw : RawInput) :
    (t.step w raw).1.clicks =
      ((raw.clickCall? w).map fun call => (t.clicks.onTimed (w.threshold, call)).1).getD
        t.clicks := by
  cases raw with
  | motion p time =>
    show (t.motion w p time).1.clicks = (t.clicks.onCall w.threshold (.motion (w.stamp time) p)).1
    cases moved : t.clicks.motion? (w.stamp time) p w.threshold with
    | none =>
      rw [motion_of_none moved]
      simp [ClickRun.onCall, moved]
    | some clicks =>
      obtain ⟨data, h⟩ := motion_of_some moved
      rw [h]
      simp [ClickRun.onCall, moved]
  | buttonDown b p time => rfl
  | buttonUp b p time => rfl
  | wheel axis delta p time => rfl
  | keyDown vk extended time => rfl
  | keyUp vk extended time => rfl
  | unrecognized message time => rfl

section Reports

variable {before after : Tracking} {w : Surroundings} {raw : RawInput} {m : MouseData}

/-- Only the press of a button reports a press, with the count that it leads to. -/
theorem press_of_mem_reports
    (h : EventKind.mouse .pressed m ∈ before.reports after w false raw) :
    m.clicks = after.clicks.count ∧ ∃ b p time, raw = .buttonDown b p time := by
  cases raw with
  | buttonDown b p time =>
    obtain rfl := (EventKind.mouse.inj (List.mem_singleton.1 h)).2
    exact ⟨rfl, b, p, time, rfl⟩
  | buttonUp b p time =>
    rcases List.mem_cons.1 h with h | h
    · cases h
    · split at h
      · cases List.mem_singleton.1 h
      · cases h
  | motion p time =>
    have moved : EventKind.mouse .pressed m ∈ if before.clicks.point = some p then [] else [_] := h
    split at moved
    · cases moved
    · have same := (EventKind.mouse.inj (List.mem_singleton.1 moved)).1
      split at same <;> cases same
  | keyDown vk extended time => simp [reports] at h
  | keyUp vk extended time => cases List.mem_singleton.1 h
  | wheel axis delta p time => cases List.mem_singleton.1 h
  | unrecognized message time => cases h

/-- Only a release at the point of the latest press reports a click, with the count before it. -/
theorem click_of_mem_reports
    (h : EventKind.mouse .clicked m ∈ before.reports after w false raw) :
    m.clicks = before.clicks.count ∧ before.clicks.point ≠ none := by
  cases raw with
  | buttonUp b p time =>
    rcases List.mem_cons.1 h with h | h
    · cases h
    · split at h
      · next here =>
        obtain rfl := (EventKind.mouse.inj (List.mem_singleton.1 h)).2
        rw [here.2]
        exact ⟨rfl, Option.some_ne_none p⟩
      · cases h
  | motion p time =>
    have moved : EventKind.mouse .clicked m ∈ if before.clicks.point = some p then [] else [_] := h
    split at moved
    · cases moved
    · have same := (EventKind.mouse.inj (List.mem_singleton.1 moved)).1
      split at same <;> cases same
  | keyDown vk extended time => simp [reports] at h
  | buttonDown b p time => cases List.mem_singleton.1 h
  | keyUp vk extended time => cases List.mem_singleton.1 h
  | wheel axis delta p time => cases List.mem_singleton.1 h
  | unrecognized message time => cases h

end Reports

end Tracking

namespace Normalizer

variable {σ : Type}

/-- The click run of a new normalizer has been told of the history. -/
theorem clicks_final (d : Dispatcher σ) (inputs : List (Surroundings × RawInput)) :
    (Run.final onInput { dispatcher := d } inputs).tracking.clicks =
      ClickRun.after (clickCalls inputs) := by
  induction inputs using List.reverseRecOn with
  | nil => rfl
  | append_singleton inputs i ih =>
    obtain ⟨w, raw⟩ := i
    rw [Run.final_append, clickCalls_append_singleton]
    show (Tracking.step _ w raw).1.clicks = _
    rw [Tracking.clicks_step, ih]
    cases raw.clickCall? w with
    | none => simp
    | some call => exact (ClickRun.after_append_singleton _ _).symm

/-- **When a click counts zero.** After any history of a new normalizer, whoever listens, whatever
the times and whatever the thresholds, the press of a button counts at least itself. A click counts
zero exactly if the count has expired since the latest press or wheel notch: motion off the point of
the latest press, or a release of its button with no wheel notch since, came later after that press
than the threshold of that moment. -/
theorem click_counts_zero_iff (d : Dispatcher σ) (inputs : List (Surroundings × RawInput))
    (i : Surroundings × RawInput) :
    ∀ e ∈ ((Run.final onInput { dispatcher := d } inputs).onInput i).2.events, ∀ m,
      (e.kind = .mouse .pressed m → 1 ≤ m.clicks) ∧
        (e.kind = .mouse .clicked m → (m.clicks = 0 ↔ Expired (clickCalls inputs))) := by
  intro e received m
  obtain ⟨w, raw⟩ := i
  let before := Run.final onInput { dispatcher := d } inputs
  have offered : e ∈ (before.tracking.step w raw).2.events :=
    before.dispatcher.events_deliver_subset _ received
  have reported := Tracking.reported_of_mem_events offered
  constructor
  · intro pressed
    rw [pressed] at reported
    obtain ⟨count, b, p, time, rfl⟩ := Tracking.press_of_mem_reports reported
    rw [count]
    exact ClickRun.count_press_pos _ _ _ _ _
  · intro clicked
    rw [clicked] at reported
    obtain ⟨count, point⟩ := Tracking.click_of_mem_reports reported
    have told : before.tracking.clicks = ClickRun.after (clickCalls inputs) :=
      clicks_final d inputs
    rw [told] at count point
    rw [count, ClickRun.count_eq_zero_iff]
    -- There was a press, for its point is remembered, so something was counted.
    refine or_iff_right ?_
    intro uncounted
    apply point
    rw [(ClickRun.press_after _).2]
    have none : ∀ x ∈ clickCalls inputs, x.2.pressAt? = none :=
      fun x hx => ClickCall.pressAt?_of_idle (uncounted x hx)
    unfold latestPressAt
    rw [List.filterMap_eq_nil_iff.2 none]
    rfl

/-- The count of a slow click has expired when the pointer has left its place meanwhile, and that of
a click without a pause has not. -/
theorem expired_of_slow_click :
    let pressed : Surroundings × RawInput := ({}, .buttonDown .left ⟨5, 5⟩ 1)
    let start : Normalizer Unit := { dispatcher := .register .passing }
    let released (time : Millis) : Surroundings × RawInput := ({}, .buttonUp .left ⟨5, 5⟩ time)
    let click (time : Millis) (clicks : Nat) : Event :=
      ⟨time, .empty, .mouse .clicked { button := some .left, clicks, x := 5, y := 5 }⟩
    let slow := [pressed, ({}, .motion ⟨6, 6⟩ 1000)]
    click 1001 0 ∈ ((Run.final onInput start slow).onInput (released 1001)).2.events ∧
      Expired (clickCalls slow) ∧
      click 2 1 ∈ ((Run.final onInput start [pressed]).onInput (released 2)).2.events ∧
      ¬ Expired (clickCalls [pressed]) := by
  intro pressed start released click slow
  have late : click 1001 0 ∈
      ((Run.final onInput start slow).onInput (released 1001)).2.events := by decide
  have quick : click 2 1 ∈
      ((Run.final onInput start [pressed]).onInput (released 2)).2.events := by decide
  have zero := (click_counts_zero_iff (.register Consumer.passing) slow (released 1001) _ late _).2
    rfl
  have one := (click_counts_zero_iff (.register Consumer.passing) [pressed] (released 2) _ quick
    _).2 rfl
  refine ⟨late, zero.1 rfl, quick, fun expired => ?_⟩
  exact absurd (one.2 expired) (by decide)

/-- A slow click of one button, during which the pointer leaves its place and comes back, counts
zero. -/
theorem slow_click_counts_zero :
    let inputs : List (Surroundings × RawInput) :=
      [({}, .buttonDown .left ⟨5, 5⟩ 1), ({}, .motion ⟨6, 6⟩ 1000)]
    let release : Surroundings × RawInput := ({}, .buttonUp .left ⟨5, 5⟩ 1001)
    let start : Normalizer Unit := { dispatcher := .register .passing }
    ∃ e ∈ ((Run.final onInput start inputs).onInput release).2.events,
      e.kind = .mouse .clicked { button := some .left, clicks := 0, x := 5, y := 5 } := by
  refine ⟨⟨1001, .empty, .mouse .clicked { button := some .left, clicks := 0, x := 5, y := 5 }⟩,
    ?_, rfl⟩
  decide

end Normalizer

end InputTap.Capture
