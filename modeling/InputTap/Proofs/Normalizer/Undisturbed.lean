import InputTap.Proofs.Normalizer.Step

/-!
# The consumer cannot disturb the tracking

Two normalizers that start from one tracking and handle the same inputs are compared input by input,
whatever their consumers answer: the trackings agree after each input, and so do the events that
lead a delivery. Clicks are the only pointer events that a consumer can hold back, and it does so by
consuming the release before them.
-/

set_option autoImplicit false

namespace InputTap.Capture.Normalizer

variable {σ τ : Type}

/-- The steps of a normalizer that starts from a tracking with a dispatcher. -/
abbrev stepsFrom (t : Tracking) (d : Dispatcher σ) (inputs : List (Surroundings × RawInput)) :
    List (Run.Step (Normalizer σ) (Surroundings × RawInput) Trace) :=
  Run.steps onInput { tracking := t, dispatcher := d } inputs

/-- The events that lead a delivery reach every consumer. -/
theorem leading_received (t : Tracking) (i : Surroundings × RawInput) (v : Verdict) :
    ((t.step i.1 i.2).2.received v).filter (Event.isOf EventType.leading) =
      (t.step i.1 i.2).2.lead.toList := by
  cases hl : (t.step i.1 i.2).2.lead with
  | none =>
    unfold Delivery.received
    rw [hl]
    rfl
  | some l =>
    have led : l.isOf EventType.leading := Event.isOf_iff.2 (Tracking.type_of_lead hl)
    rw [Delivery.received_of_lead hl, List.filter_cons_of_pos led]
    have rest : ∀ e ∈ (if v.isConsumed then [] else (t.step i.1 i.2).2.followers),
        ¬ e.isOf EventType.leading := by
      intro e he
      rw [Event.isOf_iff]
      split at he
      · cases he
      · rcases Tracking.type_of_mem_followers he with typed | ⟨clicked, -⟩
        · rw [typed]
          decide
        · rw [clicked]
          decide
    rw [List.filter_eq_nil_iff.2 rest]
    rfl

/-- A release is the leading event of its input or does not occur. -/
theorem released_not_following {t : Tracking} {i : Surroundings × RawInput} :
    ∀ e ∈ (t.step i.1 i.2).2.followers, e.type ≠ .mouse .released := by
  intro e he
  rcases Tracking.type_of_mem_followers he with typed | ⟨clicked, -⟩
  · rw [typed]
    decide
  · rw [clicked]
    decide

/-- A consumer receives the clicks of an input unless it consumes the release before them. -/
theorem clicks_received (c : Consumer σ) (t : Tracking) (i : Surroundings × RawInput) :
    ((Dispatcher.register c).deliver (t.step i.1 i.2).2).2.eventsOf [.mouse .clicked] =
      if ((Dispatcher.register c).deliver (t.step i.1 i.2).2).2.consumed (.mouse .released) then []
      else ((Dispatcher.register .passing).deliver (t.step i.1 i.2).2).2.eventsOf
        [.mouse .clicked] := by
  rw [Dispatcher.consumed_deliver_register c released_not_following]
  unfold Trace.eventsOf
  rw [Dispatcher.events_deliver_register, Dispatcher.events_deliver_register]
  cases hl : (t.step i.1 i.2).2.lead with
  | none =>
    unfold Delivery.received
    rw [hl]
    rfl
  | some l =>
    have notClick : ¬ l.isOf [.mouse .clicked] := by
      intro h
      have led := Tracking.type_of_lead hl
      rw [List.mem_singleton.1 (Event.isOf_iff.1 h)] at led
      exact absurd led (by decide)
    rw [Delivery.received_of_lead hl, Delivery.received_of_lead hl,
      List.filter_cons_of_neg notClick, List.filter_cons_of_neg notClick]
    unfold Consumer.verdictOnLead
    simp only [hl, Option.elim_some, Option.any_some, Consumer.verdictOn_passing]
    by_cases released : l.type = .mouse .released
    · rw [released]
      cases c.verdictOn l with
      | pass => rfl
      | consume => rfl
    · -- Without a release no click follows, so it makes no difference what is let through.
      have none : (t.step i.1 i.2).2.followers.filter (Event.isOf [.mouse .clicked]) = [] := by
        refine List.filter_eq_nil_iff.2 fun e he click => ?_
        have hclick := List.mem_singleton.1 (Event.isOf_iff.1 click)
        rcases Tracking.type_of_mem_followers he with typed | ⟨-, b, p, time, hi⟩
        · rw [typed] at hclick
          cases hclick
        · rw [hi] at hl
          obtain rfl := Option.some.inj hl
          exact released rfl
      have other : (l.type == EventType.mouse .released) = false := by simpa using released
      rw [other]
      cases c.verdictOn l with
      | pass => rfl
      | consume => exact none.symm

/-- The normalizer follows a tracking and has a consumer. -/
def Follows (t : Tracking) (n : Normalizer σ) : Prop :=
  n.tracking = t ∧ ∃ c, n.dispatcher = .register c

theorem follows_onInput {t : Tracking} {n : Normalizer σ} (h : n.Follows t)
    (i : Surroundings × RawInput) : (n.onInput i).1.Follows (t.step i.1 i.2).1 := by
  obtain ⟨rfl, c, hc⟩ := h
  refine ⟨rfl, ?_⟩
  rw [dispatcher_onInput, hc, Dispatcher.deliver_register]
  exact ⟨_, rfl⟩

/-- **The consumer cannot disturb the tracking.** From one tracking and on the same inputs, whoever
listens: the held keys and the click run agree after every input; of every input, any two consumers
receive the same presses, releases, motions and wheel events; and a consumer receives the clicks
that one which passes everything does, except after a release that it consumed. -/
theorem run_undisturbed (t : Tracking) (inputs : List (Surroundings × RawInput))
    (d₁ : Dispatcher σ) (d₂ : Dispatcher τ) (c₁ : Consumer σ) (c₂ : Consumer τ) :
    List.Forall₂ (fun a b => a.after.tracking = b.after.tracking)
        (stepsFrom t d₁ inputs) (stepsFrom t d₂ inputs) ∧
      List.Forall₂ (fun a b => a.output.eventsOf EventType.leading =
          b.output.eventsOf EventType.leading)
        (stepsFrom t (.register c₁) inputs) (stepsFrom t (.register c₂) inputs) ∧
      List.Forall₂ (fun own passed => own.output.eventsOf [.mouse .clicked] =
          if own.output.consumed (.mouse .released) then []
          else passed.output.eventsOf [.mouse .clicked])
        (stepsFrom t (.register c₁) inputs) (stepsFrom t (.register .passing) inputs) := by
  refine ⟨?_, ?_, ?_⟩
  · -- No consumer is needed here: the step of the tracking does not see the dispatcher.
    apply Run.forall₂_steps fun a b => a.tracking = b.tracking
    · intro a b i same
      rw [tracking_onInput, tracking_onInput, same]
    · intro a b i same
      show (a.onInput i).1.tracking = (b.onInput i).1.tracking
      rw [tracking_onInput, tracking_onInput, same]
    · rfl
  · apply Run.forall₂_steps fun a b => ∃ u, a.Follows u ∧ b.Follows u
    · rintro a b i ⟨u, ha, hb⟩
      exact ⟨_, follows_onInput ha i, follows_onInput hb i⟩
    · rintro a b i ⟨u, ⟨rfl, c, hc⟩, hb, c', hc'⟩
      show (a.onInput i).2.eventsOf _ = (b.onInput i).2.eventsOf _
      unfold Trace.eventsOf
      rw [trace_onInput, trace_onInput, hb, hc, hc', Dispatcher.events_deliver_register,
        Dispatcher.events_deliver_register, leading_received, leading_received]
    · exact ⟨t, ⟨rfl, c₁, rfl⟩, rfl, c₂, rfl⟩
  · apply Run.forall₂_steps fun a b => a.Follows b.tracking ∧ b.dispatcher = .register .passing
    · rintro a b i ⟨ha, hb⟩
      refine ⟨follows_onInput ha i, ?_⟩
      rw [dispatcher_onInput, hb, Dispatcher.deliver_register, Consumer.fed_passing]
    · rintro a b i ⟨⟨same, c, hc⟩, hb⟩
      show (a.onInput i).2.eventsOf _ = if (a.onInput i).2.consumed _ then [] else
        (b.onInput i).2.eventsOf _
      rw [trace_onInput, trace_onInput, same, hc, hb]
      exact clicks_received c b.tracking i
    · exact ⟨⟨rfl, c₁, rfl⟩, rfl⟩

end InputTap.Capture.Normalizer
