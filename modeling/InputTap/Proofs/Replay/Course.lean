import InputTap.Proofs.Replay.Accounting

/-!
# The course of a run

A loop that has not ended has a running session, whatever arrives, so every input is handled while
its session is running (`Loop.findsRunning_life`). A run is told by the signals that it takes,
whether or not it is refused and whether or not it finds its end (`Replay.course_run`).
-/

set_option autoImplicit false

namespace InputTap.Capture

variable {σ : Type}

namespace Session

/-- An input that is handled at the call finds the session running. -/
def FindsRunning (st : CallStep σ) : Prop :=
  ∀ raw, st.input.2 = .handle raw → st.before.phase = .running

/-- What is handled is handed over at some call. -/
theorem mem_handled_iff {sts : List (CallStep σ)} {x : RawInput × Verdict} :
    x ∈ handled sts ↔
      ∃ st ∈ sts, st.input.2 = .handle x.1 ∧ st.output.trace.verdict = x.2 := by
  unfold handled
  rw [List.mem_filterMap]
  constructor
  · rintro ⟨st, hst, found⟩
    split at found
    · next raw call =>
      obtain rfl := Option.some.inj found
      exact ⟨st, hst, call, rfl⟩
    · cases found
  · rintro ⟨st, hst, call, verdict⟩
    refine ⟨st, hst, ?_⟩
    rw [call, verdict]

end Session

namespace Loop

variable {r : Replay} {w : Surroundings} {l : Loop σ}

/-- The session of a loop is running until the loop ends. -/
def IsLive (l : Loop σ) : Prop := l.result = none → l.session.phase = .running

/-- A turn of a live loop leaves it live, and hands an input only to a running session. -/
theorem isLive_onTurn (live : l.IsLive) (t : Turn) :
    (l.onTurn r w t).1.IsLive ∧ ∀ st ∈ (l.onTurn r w t).2.calls, Session.FindsRunning st := by
  cases t with
  | arrive x => exact ⟨live, List.forall_mem_nil _⟩
  | take =>
    obtain ⟨goesOn, x, rest, -, taking⟩ | ⟨-, idle⟩ := onTurn_take (r := r) (w := w) l
    · have running := live goesOn
      rw [taking]
      cases x with
      | stop =>
        rw [take_stop]
        exact ⟨fun goesOn => absurd goesOn (Option.some_ne_none _), List.forall_mem_nil _⟩
      | input raw =>
        rw [take_input]
        constructor
        · intro _
          exact (Session.phase_onCall l.session (w, .handle raw)).trans running
        · intro st hst raw' _
          obtain rfl := List.mem_singleton.1 hst
          exact running
      | restart =>
        cases armed : l.armed with
        | none =>
          rw [take_restart_of_none l rest armed]
          constructor
          · intro _
            have restarting : l.session.beginRestart.1.phase = .restarting :=
              (Session.phase_onCall l.session (w, .beginRestart)).trans (if_pos running)
            exact (Session.phase_onCall l.session.beginRestart.1 (w, .finishRestart)).trans
              (if_pos restarting)
          · intro st hst raw call
            rcases List.mem_cons.1 hst with rfl | hst
            · cases call
            · obtain rfl := List.mem_singleton.1 hst
              cases call
        | some reason =>
          rw [take_restart_of_some l rest armed]
          refine ⟨fun goesOn => absurd goesOn (Option.some_ne_none _), ?_⟩
          intro st hst raw call
          obtain rfl := List.mem_singleton.1 hst
          cases call
    · rw [idle]
      exact ⟨live, List.forall_mem_nil _⟩

/-- However many signals a live loop takes and whatever arrives meanwhile, every input finds its
session running. -/
theorem findsRunning_life (live : l.IsLive) (turns : List Turn) :
    ∀ st ∈ life (Run.steps (onTurn r w) l turns), Session.FindsRunning st := by
  intro st hst
  obtain ⟨turn, hturn, made⟩ := List.mem_flatMap.1 hst
  have each : ∀ turn ∈ Run.steps (onTurn r w) l turns,
      ∀ st ∈ turn.output.calls, Session.FindsRunning st :=
    Run.forall_steps IsLive (fun l t h => (isLive_onTurn h t).1)
      (fun l t h => (isLive_onTurn h t).2) live turns
  exact each turn hturn st made

end Loop

namespace Replay

/-- The calls that a run makes which takes these signals; a refused run makes none. -/
def lived (r : Replay) (w : Surroundings) (s : Session σ) (taken : List Signal) :
    List (Surroundings × Session.Call) :=
  if r.refuses s then [] else r.callsOver w taken

/-- What a run comes to that takes these signals, whether it is refused, ends or waits. -/
structure Course (r : Replay) (w : Surroundings) (s : Session σ) (taken : List Signal)
    (e : RunEnd σ) : Prop where
  conserved : taken ++ e.replay.queue = r.queue ++ List.replicate (r.granted e.trace.stops) .stop
  session : e.session = Run.final Session.onCall s (r.lived w s taken)
  trace : e.trace = Session.traceOf (Run.steps Session.onCall s (r.lived w s taken))
  inputs : (Session.handled (Run.steps Session.onCall s (r.lived w s taken))).map Prod.fst =
    taken.filterMap Signal.input?
  verdicts : e.replay.verdicts = r.verdicts ++
    (Session.handled (Run.steps Session.onCall s (r.lived w s taken))).map Prod.snd
  running : ∀ st ∈ Run.steps Session.onCall s (r.lived w s taken), Session.FindsRunning st

/-- The loop of a run begins with a running session. -/
theorem isLive_beginning (r : Replay) (w : Surroundings) {s : Session σ} (idle : s.phase = .idle) :
    (r.beginning w s).IsLive := by
  intro _
  exact (Session.phase_onCall s (w, .start r.startTime)).trans (if_pos idle)

theorem course_run (r : Replay) (w : Surroundings) (s : Session σ) :
    ∃ taken, r.Course w s taken (r.run w s) := by
  cases refused : r.refuses s with
  | true =>
    have refusal := refusal_run w refused
    have quiet : r.lived w s [] = [] := if_pos refused
    refine ⟨[], ?_⟩
    constructor
    case conserved =>
      rw [refusal.trace, refusal.replay]
      show r.queue = r.queue ++ List.replicate (r.granted 0) .stop
      rw [granted_zero, List.replicate_zero, List.append_nil]
    case session => rw [quiet, refusal.session, Run.final_nil]
    case trace =>
      rw [quiet, refusal.trace]
      rfl
    case inputs =>
      rw [quiet]
      rfl
    case verdicts =>
      rw [quiet, refusal.replay]
      exact (List.append_nil _).symm
    case running =>
      rw [quiet]
      exact List.forall_mem_nil _
  | false =>
    obtain ⟨n, -, run⟩ := run_loop w refused
    have calls : r.lived w s (Loop.taken (r.turns w s n)) =
        r.callsOver w (Loop.taken (r.turns w s n)) := if_neg (by simp [refused])
    rw [run]
    refine ⟨Loop.taken (r.turns w s n), ?_⟩
    constructor
    case conserved => exact conserved_endOf
    case session =>
      rw [calls]
      exact session_endOf
    case trace =>
      rw [calls]
      exact trace_endOf
    case inputs =>
      rw [calls, handled_callsOver]
      exact inputs_lifeOf
    case verdicts =>
      rw [calls, handled_callsOver]
      rfl
    case running =>
      rw [calls, steps_callsOver]
      intro st hst raw call
      rcases List.mem_append.1 hst with looped | closed
      · rcases List.mem_cons.1 looped with rfl | looped
        · cases call
        · have live := isLive_beginning r w (idle_of_not_refuses refused)
          exact Loop.findsRunning_life live _ st looped raw call
      · obtain ⟨pre, x, post, closing, rfl⟩ := Run.mem_steps_iff.1 closed
        obtain ⟨time, rfl⟩ := Loop.eq_of_mem_closing
          (closing ▸ List.mem_append_right pre List.mem_cons_self)
        cases call

end Replay

end InputTap.Capture
