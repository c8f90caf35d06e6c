import InputTap.Proofs.Session.Calls

/-!
# What a session receives

`received` lists the events of some steps in the life of a session and `inputEvents` those of inputs
handled while it was running. Between a start and a stop nothing else is received but the disabling
event of that stop (`received_active`), and after a stop nothing at all (`received_stopped`).
-/

set_option autoImplicit false

namespace InputTap.Capture.Session

variable {σ : Type}

/-- One call in the life of a session. -/
abbrev CallStep (σ : Type) := Run.Step (Session σ) (Surroundings × Call) Reply

/-- The events that the consumer received at some calls. -/
def received (sts : List (CallStep σ)) : List Event :=
  sts.flatMap fun st => st.output.trace.events

/-- The call handled an input while the session was running. -/
def isLiveInput (st : CallStep σ) : Bool :=
  match st.input.2 with
  | .handle _ => st.before.phase == .running
  | _ => false

/-- The events that the consumer received of inputs handled while the session was running. -/
def inputEvents (sts : List (CallStep σ)) : List Event := received (sts.filter isLiveInput)

theorem received_cons (st : CallStep σ) (sts : List (CallStep σ)) :
    received (st :: sts) = st.output.trace.events ++ received sts := rfl

/-- A call adds what it received, unless that came of something else than an input. -/
theorem inputEvents_cons {st : CallStep σ}
    (h : isLiveInput st = true ∨ st.output.trace.events = []) (sts : List (CallStep σ)) :
    inputEvents (st :: sts) = st.output.trace.events ++ inputEvents sts := by
  unfold inputEvents
  cases live : isLiveInput st with
  | true => rw [List.filter_cons_of_pos live, received_cons]
  | false =>
    have other : ¬ isLiveInput st = true := by
      rw [live]
      exact Bool.false_ne_true
    rw [List.filter_cons_of_neg other, h.resolve_left other, List.nil_append]

theorem inputEvents_cons_of_not_live {st : CallStep σ} (h : isLiveInput st = false)
    (sts : List (CallStep σ)) : inputEvents (st :: sts) = inputEvents sts := by
  unfold inputEvents
  rw [List.filter_cons_of_neg (by rw [h]; exact Bool.false_ne_true)]

theorem inputEvents_subset (sts : List (CallStep σ)) : inputEvents sts ⊆ received sts := by
  intro e he
  obtain ⟨st, hst, he⟩ := List.mem_flatMap.1 he
  exact List.mem_flatMap.2 ⟨st, (List.mem_filter.1 hst).1, he⟩

/-- Events of inputs are never about the hook itself. -/
theorem input_of_mem_inputEvents {s : Session σ} {calls : List (Surroundings × Call)} {e : Event}
    (h : e ∈ inputEvents (Run.steps onCall s calls)) : e.isOf EventType.hook = false := by
  obtain ⟨st, hst, he⟩ := List.mem_flatMap.1 h
  obtain ⟨hst, live⟩ := List.mem_filter.1 hst
  obtain ⟨pre, ⟨w, call⟩, post, -, rfl⟩ := Run.mem_steps_iff.1 hst
  cases call with
  | handle raw =>
    have running : (Run.final onCall s pre).phase = .running := beq_iff_eq.1 live
    have handled : e ∈ ((Run.final onCall s pre).onCall (w, .handle raw)).2.trace.events := he
    rw [onCall_handle w running] at handled
    exact (Normalizer.stamped_onInput handled).input
  | start time => cases live
  | beginRestart => cases live
  | finishRestart => cases live
  | stop time => cases live

/-! ## After a stop, and between a start and a stop -/

theorem stopped_onCall {s : Session σ} (h : s.phase = .stopped) (x : Surroundings × Call) :
    (s.onCall x).1 = s ∧ (s.onCall x).2.trace.events = [] := by
  have ignored : accepts s.phase x.2 = false := by
    rw [h]
    cases x.2 <;> rfl
  obtain ⟨same, quiet, -⟩ := onCall_of_not_accepts ignored
  exact ⟨same, quiet⟩

theorem final_stopped {s : Session σ} (h : s.phase = .stopped)
    (calls : List (Surroundings × Call)) : Run.final onCall s calls = s := by
  refine Run.final_of_invariant (fun t => t = s) ?_ rfl calls
  rintro _ x rfl
  exact (stopped_onCall h x).1

theorem received_stopped {s : Session σ} (h : s.phase = .stopped)
    (calls : List (Surroundings × Call)) : received (Run.steps onCall s calls) = [] := by
  refine List.flatMap_eq_nil_iff.2 ?_
  refine Run.forall_steps (fun s : Session σ => s.phase = .stopped) ?_ ?_ h calls
  · intro s x hs
    rw [(stopped_onCall hs x).1]
    exact hs
  · intro s x hs
    exact (stopped_onCall hs x).2

/-- A start dispatches the event that enables the hook. -/
theorem events_start {s : Session σ} {c : Consumer σ} (hc : s.normalizer.dispatcher = .register c)
    (idle : s.phase = .idle) (w : Surroundings) (time : Millis) :
    (s.onCall (w, .start time)).2.trace.events = [⟨w.stamp time, .empty, .hookEnabled⟩] := by
  rw [onCall_start w idle]
  exact Normalizer.events_announce (n := s.normalizer.reread w.system) hc w .hookEnabled time

theorem isActive_onCall_start {s : Session σ} (idle : s.phase = .idle) (w : Surroundings)
    (time : Millis) : isActive (s.onCall (w, .start time)).1.phase := by
  rw [phase_onCall]
  exact .inl (if_pos idle)

/-- The event with which a stop disables the hook. -/
def disabling? : Surroundings × Call → Option Event
  | (w, .stop time) => some ⟨w.stamp time, .empty, .hookDisabled⟩
  | _ => none

theorem events_stop {s : Session σ} {c : Consumer σ} (hc : s.normalizer.dispatcher = .register c)
    (active : isActive s.phase) (w : Surroundings) (time : Millis) :
    (s.onCall (w, .stop time)).2.trace.events = [⟨w.stamp time, .empty, .hookDisabled⟩] := by
  rw [onCall_stop w active]
  show Trace.events (_ ++ [.noted .hookDisabled]) = _
  rw [Trace.events_append, Normalizer.events_announce hc]
  rfl

/-- Between a start and a stop, only inputs yield events. -/
theorem active_onCall {s : Session σ} (active : isActive s.phase) {x : Surroundings × Call}
    (other : disabling? x = none) :
    isActive (s.onCall x).1.phase ∧
      (isLiveInput (Run.stepOf onCall s x) = true ∨ (s.onCall x).2.trace.events = []) := by
  obtain ⟨w, call⟩ := x
  by_cases accepted : accepts s.phase call = true
  · rw [phase_onCall]
    cases call with
    | start time =>
      have idle : s.phase = .idle := beq_iff_eq.1 accepted
      rcases active with h | h <;> exact absurd (idle.symm.trans h) Phase.noConfusion
    | handle raw => exact ⟨active, .inl accepted⟩
    | beginRestart =>
      have running : s.phase = .running := beq_iff_eq.1 accepted
      refine ⟨.inr (if_pos running), .inr ?_⟩
      rw [onCall_beginRestart w running]
      rfl
    | finishRestart =>
      have restarting : s.phase = .restarting := beq_iff_eq.1 accepted
      obtain ⟨ns, h⟩ := onCall_finishRestart w restarting
      refine ⟨.inl (if_pos restarting), .inr ?_⟩
      rw [h]
      exact Trace.events_map_noted ns
    | stop time => cases other
  · have ignored : accepts s.phase call = false := Bool.not_eq_true _ ▸ accepted
    obtain ⟨same, quiet, -⟩ := onCall_of_not_accepts (c := (w, call)) ignored
    rw [same]
    exact ⟨active, .inr quiet⟩

/-- A session that was started receives events of inputs until the first stop disables it. -/
theorem received_active {s : Session σ} {c : Consumer σ}
    (hc : s.normalizer.dispatcher = .register c) (active : isActive s.phase)
    (calls : List (Surroundings × Call)) :
    received (Run.steps onCall s calls) =
      inputEvents (Run.steps onCall s calls) ++ (calls.findSome? disabling?).toList := by
  induction calls generalizing s c with
  | nil => rfl
  | cons x calls ih =>
    rw [Run.steps_cons, received_cons]
    cases h : disabling? x with
    | none =>
      obtain ⟨still, live⟩ := active_onCall active h
      rw [ih (dispatcher_onCall hc x) still, inputEvents_cons live,
        List.findSome?_cons_of_isNone (Option.isNone_iff_eq_none.2 h), List.append_assoc]
    | some e =>
      obtain ⟨w, call⟩ := x
      cases call with
      | stop time =>
        obtain rfl := Option.some.inj h
        have rest := received_stopped (phase_onCall s (w, .stop time)) calls
        have inputs := inputEvents_subset (Run.steps onCall (s.onCall (w, .stop time)).1 calls)
        rw [rest] at inputs
        rw [rest, inputEvents_cons_of_not_live rfl, List.eq_nil_of_subset_nil inputs,
          List.findSome?_cons_of_isSome rfl, List.append_nil]
        exact events_stop hc active w time
      | start time => cases h
      | handle raw => cases h
      | beginRestart => cases h
      | finishRestart => cases h

end InputTap.Capture.Session
