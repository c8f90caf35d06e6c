import InputTap.Proofs.Session.Received

/-!
# The life of a session

Whatever calls are made in whatever order, a consumer that listens from the beginning receives
nothing, or the enabling event, then events of inputs handled while the session runs, then at most
the disabling event (`Bracket`). Which of the three it is follows from the order of the calls alone:
`StartedFirst` and `StoppedLater`. `Lifecycle` adds what the refused calls leave as it was.
-/

set_option autoImplicit false

namespace InputTap.Capture.Session

variable {σ : Type}

/-! ## The bracket -/

/-- Some start is called before every stop, and the calls after it are such. -/
def StartedThen (such : List Call → Prop) (calls : List Call) : Prop :=
  ∃ pre time post, calls = pre ++ .start time :: post ∧ (∀ u, .stop u ∉ pre) ∧ such post

/-- Some start is called before every stop. -/
def StartedFirst : List Call → Prop := StartedThen fun _ => True

/-- A stop is called after such a start. -/
def StoppedLater : List Call → Prop := StartedThen fun post => ∃ u, .stop u ∈ post

theorem startedThen_start (such : List Call → Prop) {time : Millis} {calls : List Call}
    (h : such calls) : StartedThen such (.start time :: calls) :=
  ⟨[], time, calls, rfl, fun _ hu => absurd hu List.not_mem_nil, h⟩

theorem startedThen_cons_iff {such : List Call → Prop} {call : Call} {calls : List Call}
    (h : ∀ time, call ≠ .start time) :
    StartedThen such (call :: calls) ↔ (∀ u, call ≠ .stop u) ∧ StartedThen such calls := by
  constructor
  · rintro ⟨pre, time, post, split, unstopped, hp⟩
    rcases List.cons_eq_append_iff.1 split with ⟨rfl, start⟩ | ⟨pre, rfl, rest⟩
    · exact absurd (List.cons.inj start).1.symm (h time)
    · refine ⟨?_, pre, time, post, rest, ?_, hp⟩
      · rintro u rfl
        exact unstopped u List.mem_cons_self
      · intro u hu
        exact unstopped u (List.mem_cons_of_mem _ hu)
  · rintro ⟨other, pre, time, post, rfl, unstopped, hp⟩
    refine ⟨call :: pre, time, post, rfl, ?_, hp⟩
    intro u hu
    rcases List.mem_cons.1 hu with rfl | hu
    · exact other u rfl
    · exact unstopped u hu

theorem StoppedLater.startedFirst {calls : List Call} :
    StoppedLater calls → StartedFirst calls := by
  rintro ⟨pre, time, post, split, unstopped, -⟩
  exact ⟨pre, time, post, split, unstopped, trivial⟩

theorem stoppedLater_start {time : Millis} {calls : List Call} :
    StoppedLater (.start time :: calls) ↔ ∃ u, .stop u ∈ calls := by
  constructor
  · rintro ⟨pre, t, post, split, -, u, hu⟩
    rcases List.cons_eq_append_iff.1 split with ⟨-, start⟩ | ⟨pre, -, rest⟩
    · obtain ⟨-, rfl⟩ := List.cons.inj start
      exact ⟨u, hu⟩
    · rw [rest]
      exact ⟨u, List.mem_append_right _ (List.mem_cons_of_mem _ hu)⟩
  · intro h
    exact startedThen_start _ h

/-- What may be received in the life of a session: nothing if it was never started, and else the
events of inputs between one that enables and at most one that disables. -/
inductive Bracket (calls : List Call) (inputs : List Event) : List Event → Prop
  | unstarted (never : ¬ StartedFirst calls) : Bracket calls inputs []
  | started (first : StartedFirst calls) {enabled : Event} {disabled : Option Event}
      (on : enabled.kind = .hookEnabled ∧ enabled.mask = .empty)
      (off : ∀ e ∈ disabled, e.kind = .hookDisabled ∧ e.mask = .empty)
      (stopped : disabled.isSome = true ↔ StoppedLater calls) :
      Bracket calls inputs (enabled :: (inputs ++ disabled.toList))

theorem kind_of_input {e : Event} (h : e.isOf EventType.hook = false) :
    e.kind ≠ .hookEnabled ∧ e.kind ≠ .hookDisabled := by
  obtain ⟨time, mask, kind⟩ := e
  constructor
  · rintro rfl
    cases h
  · rintro rfl
    cases h

namespace Bracket

variable {calls : List Call} {inputs es : List Event}

/-- A call without an effect on a session that was not started keeps the bracket. -/
theorem cons (h : Bracket calls inputs es) {call : Call} (noStart : ∀ time, call ≠ .start time)
    (noStop : ∀ time, call ≠ .stop time) : Bracket (call :: calls) inputs es := by
  have same (such : List Call → Prop) :
      StartedThen such (call :: calls) ↔ StartedThen such calls :=
    (startedThen_cons_iff noStart).trans (and_iff_right noStop)
  cases h with
  | unstarted never => exact .unstarted fun first => never ((same _).1 first)
  | started first on off stopped =>
    exact .started ((same _).2 first) on off (stopped.trans (same _).symm)

theorem enabled_iff (h : Bracket calls inputs es) :
    (∃ e ∈ es, e.kind = .hookEnabled) ↔ StartedFirst calls := by
  cases h with
  | unstarted never =>
    refine ⟨?_, fun first => absurd first never⟩
    rintro ⟨e, he, -⟩
    cases he
  | started first on off stopped =>
    exact ⟨fun _ => first, fun _ => ⟨_, List.mem_cons_self, on.1⟩⟩

theorem disabled_iff (h : Bracket calls inputs es)
    (quiet : ∀ e ∈ inputs, e.isOf EventType.hook = false) :
    (∃ e ∈ es, e.kind = .hookDisabled) ↔ StoppedLater calls := by
  cases h with
  | unstarted never =>
    refine ⟨?_, fun later => absurd later.startedFirst never⟩
    rintro ⟨e, he, -⟩
    cases he
  | @started _ enabled disabled on off stopped =>
    rw [← stopped]
    constructor
    · rintro ⟨e, he, kind⟩
      rcases List.mem_cons.1 he with rfl | he
      · cases on.1.symm.trans kind
      rcases List.mem_append.1 he with he | he
      · exact absurd kind (kind_of_input (quiet e he)).2
      · exact Option.isSome_of_mem (Option.mem_toList.1 he)
    · intro some_
      obtain ⟨d, rfl⟩ := Option.isSome_iff_exists.1 some_
      exact ⟨d, List.mem_cons_of_mem _ (List.mem_append_right _ List.mem_cons_self),
        (off d rfl).1⟩

end Bracket

theorem disabling_of_mem {calls : List (Surroundings × Call)} {e : Event}
    (h : e ∈ calls.findSome? disabling?) : e.kind = .hookDisabled ∧ e.mask = .empty := by
  obtain ⟨⟨w, call⟩, -, hx⟩ := List.exists_of_findSome?_eq_some h
  cases call with
  | stop time =>
    obtain rfl := Option.some.inj hx
    exact ⟨rfl, rfl⟩
  | start time => cases hx
  | handle raw => cases hx
  | beginRestart => cases hx
  | finishRestart => cases hx

theorem isSome_disabling_iff {calls : List (Surroundings × Call)} :
    (calls.findSome? disabling?).isSome = true ↔ ∃ u, .stop u ∈ calls.map Prod.snd := by
  rw [List.findSome?_isSome_iff]
  constructor
  · rintro ⟨⟨w, call⟩, hx, stops⟩
    cases call with
    | stop time => exact ⟨time, List.mem_map.2 ⟨_, hx, rfl⟩⟩
    | start time => cases stops
    | handle raw => cases stops
    | beginRestart => cases stops
    | finishRestart => cases stops
  · rintro ⟨u, hu⟩
    obtain ⟨⟨w, call⟩, hx, rfl⟩ := List.mem_map.1 hu
    exact ⟨(w, .stop u), hx, rfl⟩

/-- The bracket of a session that was not started yet. -/
theorem bracket_idle {s : Session σ} {c : Consumer σ} (hc : s.normalizer.dispatcher = .register c)
    (idle : s.phase = .idle) (calls : List (Surroundings × Call)) :
    Bracket (calls.map Prod.snd) (inputEvents (Run.steps onCall s calls))
      (received (Run.steps onCall s calls)) := by
  induction calls with
  | nil =>
    refine .unstarted ?_
    rintro ⟨pre, time, post, split, -⟩
    cases pre <;> cases split
  | cons x calls ih =>
    obtain ⟨w, call⟩ := x
    rw [Run.steps_cons, received_cons, List.map_cons]
    by_cases accepted : accepts .idle call = true
    · cases call with
      | start time =>
        rw [inputEvents_cons_of_not_live rfl,
          received_active (dispatcher_onCall hc _) (isActive_onCall_start idle w time)]
        show Bracket _ _ ((s.onCall (w, .start time)).2.trace.events ++ _)
        rw [events_start hc idle w time]
        exact .started (startedThen_start _ trivial) ⟨rfl, rfl⟩ (fun _ => disabling_of_mem)
          (isSome_disabling_iff.trans stoppedLater_start.symm)
      | stop time =>
        have quiet : (s.onCall (w, .stop time)).2.trace.events = [] := by
          rw [onCall_stop_idle w idle]
          rfl
        rw [received_stopped (phase_onCall s (w, .stop time)) calls, List.append_nil]
        show Bracket _ _ (s.onCall (w, .stop time)).2.trace.events
        rw [quiet]
        refine .unstarted fun first => ?_
        exact ((startedThen_cons_iff (fun _ => Call.noConfusion)).1 first).1 time rfl
      | handle raw => cases accepted
      | beginRestart => cases accepted
      | finishRestart => cases accepted
    · have ignored : accepts s.phase call = false := by
        rw [idle]
        exact Bool.not_eq_true _ ▸ accepted
      obtain ⟨same, quiet, -⟩ := onCall_of_not_accepts (c := (w, call)) ignored
      rw [inputEvents_cons (.inr quiet), same]
      show Bracket _ ((s.onCall (w, call)).2.trace.events ++ _)
        ((s.onCall (w, call)).2.trace.events ++ _)
      rw [quiet]
      refine ih.cons ?_ ?_
      · rintro time rfl
        exact accepted rfl
      · rintro time rfl
        exact accepted rfl

/-! ## Starts -/

/-- The call was a start that succeeded. -/
def isStarted (st : CallStep σ) : Bool :=
  match st.input.2 with
  | .start _ => st.output.fault.isNone
  | _ => false

theorem isStarted_stepOf {s : Session σ} {x : Surroundings × Call}
    (h : isStarted (Run.stepOf onCall s x) = true) :
    s.phase = .idle ∧ ∃ time, x.2 = .start time := by
  obtain ⟨w, call⟩ := x
  cases call with
  | start time =>
    refine ⟨?_, time, rfl⟩
    have accepted : (s.onCall (w, .start time)).2.fault.isNone = true := h
    rw [fault_onCall_start] at accepted
    by_contra other
    rw [if_neg other] at accepted
    cases accepted
  | handle raw => cases h
  | beginRestart => cases h
  | finishRestart => cases h
  | stop time => cases h

/-- No call leads back to a session that was not started. -/
theorem phase_onCall_ne_idle {s : Session σ} (h : s.phase ≠ .idle) (x : Surroundings × Call) :
    (s.onCall x).1.phase ≠ .idle := by
  rw [phase_onCall]
  obtain ⟨phase, n⟩ := s
  cases phase with
  | idle => exact absurd rfl h
  | running => cases x.2 <;> exact Phase.noConfusion
  | restarting => cases x.2 <;> exact Phase.noConfusion
  | stopped => cases x.2 <;> exact Phase.noConfusion

theorem countP_isStarted_le (s : Session σ) (calls : List (Surroundings × Call)) :
    (Run.steps onCall s calls).countP isStarted ≤ 1 := by
  refine Run.countP_le_one (fun s : Session σ => s.phase ≠ .idle) ?_ ?_ s calls
  · intro s x hs
    exact phase_onCall_ne_idle hs x
  · intro s x h
    obtain ⟨idle, time, start⟩ := isStarted_stepOf h
    refine ⟨fun started => started idle, ?_⟩
    rw [phase_onCall, start]
    exact (if_pos idle).trans_ne Phase.noConfusion

/-- A start that did not succeed tells so and leaves the session as it is. -/
theorem start_refused {s : Session σ} {x : Surroundings × Call} {time : Millis}
    (start : x.2 = .start time) (h : isStarted (Run.stepOf onCall s x) = false) :
    (s.onCall x).2.fault = some .alreadyStarted ∧ (s.onCall x).1 = s := by
  obtain ⟨w, call⟩ := x
  cases start
  have refused : (s.onCall (w, .start time)).2.fault.isNone = false := h
  rw [fault_onCall_start] at refused ⊢
  by_cases idle : s.phase = .idle
  · rw [if_pos idle] at refused
    cases refused
  · refine ⟨if_neg idle, ?_⟩
    exact (onCall_of_not_accepts (c := (w, .start time)) (beq_eq_false_iff_ne.2 idle)).1

/-! ## The whole life -/

/-- The steps in the life of a new session to which a consumer listens. -/
def life (c : Consumer σ) (calls : List (Surroundings × Call)) : List (CallStep σ) :=
  Run.steps onCall (new (.register c)) calls

/-- The session after those calls. -/
def after (c : Consumer σ) (calls : List (Surroundings × Call)) : Session σ :=
  Run.final onCall (new (.register c)) calls

/-- The laws of a life, whatever the calls. -/
structure Lifecycle (c : Consumer σ) (calls : List (Surroundings × Call)) : Prop where
  /-- The consumer has seen just the received events. -/
  listening : (after c calls).normalizer.dispatcher = .register (c.fed (received (life c calls)))
  bracket : Bracket (calls.map Prod.snd) (inputEvents (life c calls)) (received (life c calls))
  inputs : ∀ e ∈ inputEvents (life c calls), e.kind ≠ .hookEnabled ∧ e.kind ≠ .hookDisabled
  enabled_iff :
    (∃ e ∈ received (life c calls), e.kind = .hookEnabled) ↔ StartedFirst (calls.map Prod.snd)
  disabled_iff :
    (∃ e ∈ received (life c calls), e.kind = .hookDisabled) ↔ StoppedLater (calls.map Prod.snd)
  one_start : (life c calls).countP isStarted ≤ 1
  start_again : ∀ st ∈ life c calls, ∀ time, st.input.2 = .start time → isStarted st = false →
    st.output.fault = some .alreadyStarted ∧ st.after = st.before
  handle_outside : ∀ st ∈ life c calls, ∀ raw, st.input.2 = .handle raw →
    st.before.phase ≠ .running →
      st.output.trace.verdict = .pass ∧ st.output.trace.events = [] ∧ st.after = st.before
  stopped_stays : ∀ pre post, calls = pre ++ post → (after c pre).phase = .stopped →
    after c calls = after c pre

theorem listening_after {s : Session σ} {c : Consumer σ}
    (hc : s.normalizer.dispatcher = .register c) (calls : List (Surroundings × Call)) :
    (Run.final onCall s calls).normalizer.dispatcher =
      .register (c.fed (received (Run.steps onCall s calls))) := by
  induction calls generalizing s c with
  | nil => exact hc
  | cons x calls ih =>
    rw [Run.final_cons, Run.steps_cons, received_cons, ih (dispatcher_onCall hc x),
      Consumer.fed_fed]
    rfl

/-- **A life is lawful**, whatever calls are made in whatever order and whatever the consumer. -/
theorem lifecycle (c : Consumer σ) (calls : List (Surroundings × Call)) : Lifecycle c calls := by
  have bracket : Bracket (calls.map Prod.snd) (inputEvents (life c calls))
      (received (life c calls)) := bracket_idle rfl rfl calls
  have inputs : ∀ e ∈ inputEvents (life c calls), e.isOf EventType.hook = false :=
    fun e he => input_of_mem_inputEvents he
  constructor
  case listening => exact listening_after rfl calls
  case bracket => exact bracket
  case inputs =>
    intro e he
    exact kind_of_input (inputs e he)
  case enabled_iff => exact bracket.enabled_iff
  case disabled_iff => exact bracket.disabled_iff inputs
  case one_start => exact countP_isStarted_le _ calls
  case start_again =>
    intro st hst time start refused
    obtain ⟨pre, x, post, -, rfl⟩ := Run.mem_steps_iff.1 hst
    exact start_refused start refused
  case handle_outside =>
    intro st hst raw handled outside
    obtain ⟨pre, x, post, -, rfl⟩ := Run.mem_steps_iff.1 hst
    have ignored : accepts (Run.final onCall (new (.register c)) pre).phase x.2 = false := by
      rw [show x.2 = .handle raw from handled]
      exact beq_eq_false_iff_ne.2 outside
    obtain ⟨same, quiet, pass⟩ := onCall_of_not_accepts ignored
    exact ⟨pass, quiet, same⟩
  case stopped_stays =>
    rintro pre post rfl stopped
    exact (Run.final_append _ pre post).trans (final_stopped stopped post)

end InputTap.Capture.Session
