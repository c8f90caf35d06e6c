import InputTap.Capture.Session
import InputTap.Proofs.Normalizer.Step

/-!
# Calls of a session

`Session.onCall` is the step function whose runs are the lives of a session: any calls in any order,
each with the surroundings in which it is made. A phase accepts some calls; one that it does not
accept changes nothing (`onCall_of_not_accepts`). The accepted ones are told by one equation each.
-/

set_option autoImplicit false

namespace InputTap.Capture

variable {σ : Type}

namespace Normalizer

variable {n : Normalizer σ} {c : Consumer σ}

/-- An announcement reaches the consumer as one event without a mask. -/
theorem events_announce (h : n.dispatcher = .register c) (w : Surroundings) (kind : EventKind)
    (time : Millis) : (n.announce w kind time).2.events = [⟨w.stamp time, .empty, kind⟩] := by
  show (n.dispatcher.deliver _).2.events = _
  rw [h, Dispatcher.events_deliver_register, Delivery.received_of_lead rfl]
  split <;> rfl

end Normalizer

namespace Session

/-- A call of a session. -/
inductive Call
  | start (time : Millis)
  | handle (raw : RawInput)
  | beginRestart
  | finishRestart
  | stop (time : Millis)
deriving DecidableEq, Inhabited

/-- What a call came to. -/
structure Reply where
  trace : Trace := []
  /-- The fault of a start that was refused. -/
  fault : Option HookFault := none

/-- Makes a call in its surroundings. -/
def onCall (s : Session σ) (c : Surroundings × Call) : Session σ × Reply :=
  match c.2 with
  | .start time =>
    match s.start c.1 time with
    | .ok r => (r.1, { trace := r.2 })
    | .error f => (s, { fault := some f })
  | .handle raw => ((s.handle c.1 raw).1, { trace := (s.handle c.1 raw).2 })
  | .beginRestart => (s.beginRestart.1, { trace := s.beginRestart.2 })
  | .finishRestart => ((s.finishRestart c.1).1, { trace := (s.finishRestart c.1).2 })
  | .stop time => ((s.stop c.1 time).1, { trace := (s.stop c.1 time).2 })

/-- The call has an effect in this phase. -/
def accepts (p : Phase) : Call → Bool
  | .start _ => p == .idle
  | .handle _ | .beginRestart => p == .running
  | .finishRestart => p == .restarting
  | .stop _ => p != .stopped

/-- The phases between a start and a stop. -/
def isActive (p : Phase) : Prop := p = .running ∨ p = .restarting

theorem isActive_of_stop {p : Phase} {time : Millis} (h : accepts p (.stop time) = true)
    (started : p ≠ .idle) : isActive p := by
  cases p with
  | idle => exact absurd rfl started
  | running => exact .inl rfl
  | restarting => exact .inr rfl
  | stopped => cases h

/-- The phase to which a call leads. -/
def next (p : Phase) : Call → Phase
  | .start _ => if p = .idle then .running else p
  | .handle _ => p
  | .beginRestart => if p = .running then .restarting else p
  | .finishRestart => if p = .restarting then .running else p
  | .stop _ => .stopped

@[simp] theorem phase_onCall (s : Session σ) (c : Surroundings × Call) :
    (s.onCall c).1.phase = next s.phase c.2 := by
  obtain ⟨phase, n⟩ := s
  obtain ⟨w, call⟩ := c
  cases call <;> cases phase <;> rfl

/-- A call that the phase does not accept leaves the whole session as it is, and nothing is
received. -/
theorem onCall_of_not_accepts {s : Session σ} {c : Surroundings × Call}
    (h : accepts s.phase c.2 = false) :
    (s.onCall c).1 = s ∧
      (s.onCall c).2.trace.events = [] ∧ (s.onCall c).2.trace.verdict = .pass := by
  obtain ⟨phase, n⟩ := s
  obtain ⟨w, call⟩ := c
  cases call <;> cases phase <;> cases h <;> exact ⟨rfl, rfl, rfl⟩

/-- A start is refused in every phase but the first. -/
theorem fault_onCall_start (s : Session σ) (w : Surroundings) (time : Millis) :
    (s.onCall (w, .start time)).2.fault =
      if s.phase = .idle then none else some .alreadyStarted := by
  obtain ⟨phase, n⟩ := s
  cases phase <;> rfl

section Accepted

variable {s : Session σ} (w : Surroundings)

theorem onCall_start (h : s.phase = .idle) (time : Millis) :
    s.onCall (w, .start time) =
      ({ phase := .running
         normalizer := ((s.normalizer.reread w.system).announce w .hookEnabled time).1 },
        { trace := .noted (.hookEnabled (s.normalizer.reread w.system).held) ::
            ((s.normalizer.reread w.system).announce w .hookEnabled time).2 }) := by
  obtain ⟨phase, n⟩ := s
  subst h
  rfl

theorem onCall_handle (h : s.phase = .running) (raw : RawInput) :
    s.onCall (w, .handle raw) =
      ({ s with normalizer := (s.normalizer.onInput (w, raw)).1 },
        { trace := (s.normalizer.onInput (w, raw)).2 }) := by
  obtain ⟨phase, n⟩ := s
  subst h
  rfl

theorem onCall_beginRestart (h : s.phase = .running) :
    s.onCall (w, .beginRestart) =
      ({ s with phase := .restarting }, { trace := [.noted .restarting] }) := by
  obtain ⟨phase, n⟩ := s
  subst h
  rfl

/-- The end of a restart rereads the keys and notes what it did. -/
theorem onCall_finishRestart (h : s.phase = .restarting) :
    ∃ ns, s.onCall (w, .finishRestart) =
      ({ phase := .running, normalizer := s.normalizer.reread w.system },
        { trace := List.map .noted ns }) := by
  obtain ⟨phase, n⟩ := s
  subst h
  by_cases same : n.held = (n.reread w.system).held
  · refine ⟨[.restarted], ?_⟩
    simp [onCall, finishRestart, held, same]
  · refine ⟨[.heldChanged n.held (n.reread w.system).held, .restarted], ?_⟩
    simp [onCall, finishRestart, held, same]

theorem onCall_stop_idle (h : s.phase = .idle) (time : Millis) :
    s.onCall (w, .stop time) = ({ s with phase := .stopped }, {}) := by
  obtain ⟨phase, n⟩ := s
  subst h
  rfl

theorem onCall_stop (h : isActive s.phase) (time : Millis) :
    s.onCall (w, .stop time) =
      ({ phase := .stopped, normalizer := (s.normalizer.announce w .hookDisabled time).1 },
        { trace := (s.normalizer.announce w .hookDisabled time).2 ++ [.noted .hookDisabled] }) := by
  obtain ⟨phase, n⟩ := s
  rcases h with rfl | rfl <;> rfl

end Accepted

/-- A call delivers something and leads to a phase and a tracking, and its phase and tracking decide
what; who listens makes no difference. -/
theorem onCall_delivers (phase : Phase) (tracking : Tracking) (x : Surroundings × Call) :
    ∃ delivery phase' tracking' fault, ∀ {ρ : Type} (d : Dispatcher ρ),
      onCall ⟨phase, tracking, d⟩ x =
        (⟨phase', tracking', (d.deliver delivery).1⟩, ⟨(d.deliver delivery).2, fault⟩) := by
  obtain ⟨w, call⟩ := x
  cases call with
  | start time =>
    cases phase with
    | idle =>
      exact ⟨{ before := [.hookEnabled (tracking.reread w.system).keys.held]
               lead := some ⟨w.stamp time, .empty, .hookEnabled⟩ },
        .running, tracking.reread w.system, none, fun d => rfl⟩
    | running => exact ⟨{}, .running, tracking, some .alreadyStarted, fun d => rfl⟩
    | restarting => exact ⟨{}, .restarting, tracking, some .alreadyStarted, fun d => rfl⟩
    | stopped => exact ⟨{}, .stopped, tracking, some .alreadyStarted, fun d => rfl⟩
  | handle raw =>
    by_cases running : phase = .running
    · subst running
      exact ⟨(tracking.step w raw).2, .running, (tracking.step w raw).1, none, fun d => rfl⟩
    · refine ⟨{ before := [.outsideRunning phase] }, phase, tracking, none, fun d => ?_⟩
      cases phase with
      | running => exact absurd rfl running
      | idle => rfl
      | restarting => rfl
      | stopped => rfl
  | beginRestart =>
    cases phase with
    | running => exact ⟨{ before := [.restarting] }, .restarting, tracking, none, fun d => rfl⟩
    | idle => exact ⟨{}, .idle, tracking, none, fun d => rfl⟩
    | restarting => exact ⟨{}, .restarting, tracking, none, fun d => rfl⟩
    | stopped => exact ⟨{}, .stopped, tracking, none, fun d => rfl⟩
  | finishRestart =>
    cases phase with
    | restarting =>
      by_cases same : tracking.keys.held = (tracking.reread w.system).keys.held
      · refine ⟨{ before := [.restarted] }, .running, tracking.reread w.system, none, fun d => ?_⟩
        simp [onCall, finishRestart, held, Normalizer.held, Normalizer.reread, same,
          Dispatcher.deliver]
      · refine ⟨{ before := [.heldChanged tracking.keys.held (tracking.reread w.system).keys.held,
          .restarted] }, .running, tracking.reread w.system, none, fun d => ?_⟩
        simp [onCall, finishRestart, held, Normalizer.held, Normalizer.reread, same,
          Dispatcher.deliver]
    | idle => exact ⟨{}, .idle, tracking, none, fun d => rfl⟩
    | running => exact ⟨{}, .running, tracking, none, fun d => rfl⟩
    | stopped => exact ⟨{}, .stopped, tracking, none, fun d => rfl⟩
  | stop time =>
    have disabling : ∀ {ρ : Type} (d : Dispatcher ρ), isActive phase →
        onCall ⟨phase, tracking, d⟩ (w, .stop time) =
          (⟨.stopped, tracking, (d.deliver
              { lead := some ⟨w.stamp time, .empty, .hookDisabled⟩
                after := [.hookDisabled] }).1⟩,
            ⟨(d.deliver { lead := some ⟨w.stamp time, .empty, .hookDisabled⟩
                          after := [.hookDisabled] }).2, none⟩) := by
      intro ρ d active
      rw [onCall_stop (s := ⟨phase, tracking, d⟩) w active]
      simp [Dispatcher.deliver, Normalizer.announce, Normalizer.deliver]
    cases phase with
    | running => exact ⟨_, _, _, _, fun d => disabling d (.inl rfl)⟩
    | restarting => exact ⟨_, _, _, _, fun d => disabling d (.inr rfl)⟩
    | idle => exact ⟨{}, .stopped, tracking, none, fun d => rfl⟩
    | stopped => exact ⟨{}, .stopped, tracking, none, fun d => rfl⟩

/-- Whatever a call dispatches and notes, it does so by carrying out one delivery. -/
theorem deliver_onCall (s : Session σ) (x : Surroundings × Call) :
    ∃ d : Delivery, s.normalizer.dispatcher.deliver d =
      ((s.onCall x).1.normalizer.dispatcher, (s.onCall x).2.trace) := by
  obtain ⟨phase, tracking, d⟩ := s
  obtain ⟨delivery, phase', tracking', fault, delivers⟩ := onCall_delivers phase tracking x
  refine ⟨delivery, ?_⟩
  rw [delivers]

/-- A call leaves the consumer fed with what it received. -/
theorem dispatcher_onCall {s : Session σ} {c : Consumer σ}
    (h : s.normalizer.dispatcher = .register c) (x : Surroundings × Call) :
    (s.onCall x).1.normalizer.dispatcher = .register (c.fed (s.onCall x).2.trace.events) := by
  obtain ⟨d, delivered⟩ := s.deliver_onCall x
  have fed := Dispatcher.deliver_register c d
  rw [← h, delivered] at fed
  exact fed

end Session

end InputTap.Capture
