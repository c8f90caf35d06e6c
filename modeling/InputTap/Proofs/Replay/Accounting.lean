import InputTap.Proofs.Replay.Loop
import InputTap.Proofs.Session.Lifecycle

/-!
# The accounts of replayed runs

Runs on one replay follow one another, each with a session of its own, and what one of them leaves
in the queue is there for the next. `Account` is what a run that is not refused owes: it takes the
shortest part of the queue that ends it, hands the inputs in it to the session, keeps the verdicts,
and leaves the rest. `accounts` says it of every run and draws the balance of all of them.
-/

set_option autoImplicit false

namespace InputTap.Capture

variable {σ : Type}

namespace Signal

variable {armed : Option String} {result : Except HookFault Unit} {xs : List Signal}

/-- The signals end a run, and no shorter part of them does. -/
def IsShortest (armed : Option String) (result : Except HookFault Unit) (xs : List Signal) : Prop :=
  ∃ pre last, xs = pre ++ [last] ∧ (∀ x ∈ pre, x.end? armed = none) ∧
    last.end? armed = some result

/-- Some signals up to the first that ends a run. -/
def upToEnd (armed : Option String) (xs : List Signal) : List Signal :=
  xs.takeWhile (fun x => (x.end? armed).isNone) ++
    (xs.dropWhile fun x => (x.end? armed).isNone).take 1

theorem IsShortest.upToEnd_append (h : IsShortest armed result xs) (rest : List Signal) :
    upToEnd armed (xs ++ rest) = xs := by
  obtain ⟨pre, last, rfl, before, ends⟩ := h
  have goOn : ∀ x ∈ pre, (x.end? armed).isNone = true :=
    fun x hx => Option.isNone_iff_eq_none.2 (before x hx)
  unfold upToEnd
  rw [List.append_assoc, List.takeWhile_append_of_pos goOn, List.dropWhile_append_of_pos goOn]
  simp [ends]

/-- Signals of which only the last may end a run end it if one of them does. -/
theorem isShortest_of_findSome? (found : xs.findSome? (end? armed) = some result)
    (before : ∀ x ∈ xs.dropLast, x.end? armed = none) : IsShortest armed result xs := by
  rcases List.eq_nil_or_concat xs with rfl | ⟨pre, last, rfl⟩
  · cases found
  · rw [List.concat_eq_append, List.dropLast_concat] at before
    refine ⟨pre, last, List.concat_eq_append, before, ?_⟩
    rw [List.concat_eq_append, List.findSome?_append,
      List.findSome?_eq_none_iff.2 before] at found
    simpa using found

/-- Where no signal of a queue ends a run, the first one that does is a stop behind the queue. -/
theorem eq_of_quiet {queue pre rest : List Signal} {last : Signal} {stops : Nat}
    (quiet : ∀ x ∈ queue, x.end? armed = none) (goOn : ∀ x ∈ pre, x.end? armed = none)
    (ends : last.end? armed ≠ none)
    (same : pre ++ last :: rest = queue ++ List.replicate stops .stop) :
    pre = queue ∧ last = .stop ∧ 0 < stops := by
  have front : pre = queue := by
    have cut := congrArg (List.takeWhile fun x => (x.end? armed).isNone) same
    rw [List.takeWhile_append_of_pos fun x hx => Option.isNone_iff_eq_none.2 (goOn x hx),
      List.takeWhile_append_of_pos fun x hx => Option.isNone_iff_eq_none.2 (quiet x hx),
      List.takeWhile_cons_of_neg (by simpa using ends), List.takeWhile_replicate,
      if_neg (by simp [end?]), List.append_nil, List.append_nil] at cut
    exact cut
  rw [front, List.append_cancel_left_eq] at same
  cases stops with
  | zero => cases same
  | succ stops => exact ⟨front, (List.cons.inj same).1, Nat.succ_pos stops⟩

/-- No calls are made for a stop. -/
theorem callsIn_append_stop (w : Surroundings) (xs : List Signal) :
    callsIn armed w (xs ++ [.stop]) = callsIn armed w xs := by
  simp [callsIn, calls]

/-- The calls for some signals hand over the inputs among them. -/
theorem handled_callsIn (s : Session σ) (w : Surroundings) (xs : List Signal) :
    (Session.handled (Run.steps Session.onCall s (callsIn armed w xs))).map Prod.fst =
      xs.filterMap input? := by
  induction xs generalizing s with
  | nil => rfl
  | cons x xs ih =>
    rw [callsIn_cons, Run.steps_append, Session.handled_append, List.map_append, ih]
    cases x with
    | input raw => rfl
    | stop => rfl
    | restart => cases armed <;> rfl

/-- The session is disabled by the stop behind the calls for some signals. -/
theorem disabling?_callsIn (w : Surroundings) (xs : List Signal) (time : Millis) :
    (callsIn armed w xs ++ [(w, Session.Call.stop time)]).findSome? Session.disabling? =
      some ⟨w.stamp time, .empty, .hookDisabled⟩ := by
  induction xs with
  | nil => rfl
  | cons x xs ih =>
    rw [callsIn_cons, List.append_assoc, List.findSome?_append, ih]
    cases x with
    | input raw => rfl
    | stop => rfl
    | restart => cases armed <;> rfl

end Signal

namespace Replay

/-- The calls in the life of a session from its start over some signals. -/
def callsFrom (r : Replay) (w : Surroundings) (xs : List Signal) :
    List (Surroundings × Session.Call) :=
  (w, .start r.startTime) :: Signal.callsIn r.restartFault w xs

/-- All calls in the life of a session that is run on some signals. -/
def callsOn (r : Replay) (w : Surroundings) (xs : List Signal) :
    List (Surroundings × Session.Call) :=
  r.callsFrom w xs ++ [(w, .stop (Signal.lastTime r.startTime xs))]

/-- The calls in the life of a session over some signals, with its stop if they end the run. -/
def callsOver (r : Replay) (w : Surroundings) (xs : List Signal) :
    List (Surroundings × Session.Call) :=
  r.callsFrom w xs ++
    Loop.closing w (xs.findSome? (Signal.end? r.restartFault)) (Signal.lastTime r.startTime xs)

/-- The run finds its end: a signal in the queue ends it, or the consumer asks for a stop at the
start or at an input in the queue, and the stop is granted. -/
def Ends (r : Replay) (w : Surroundings) (s : Session σ) : Prop :=
  (∃ x ∈ r.queue, x.end? r.restartFault ≠ none) ∨
    0 < r.granted (Session.traceOf (Run.steps Session.onCall s (r.callsFrom w r.queue))).stops

/-- What a run owes that takes these signals. -/
structure Account (r : Replay) (w : Surroundings) (s : Session σ) (taken : List Signal)
    (e : RunEnd σ) : Prop where
  /-- The run ends with the first signal that can end it, and as that signal says. -/
  shortest : ∃ result, e.result = some result ∧ Signal.IsShortest r.restartFault result taken
  /-- The signals were taken from the front of the queue, behind which stand the stops that were
  asked for; the others are left. -/
  conserved : taken ++ e.replay.queue = r.queue ++ List.replicate (r.granted e.trace.stops) .stop
  session : e.session = Run.final Session.onCall s (r.callsOn w taken)
  trace : e.trace = Session.traceOf (Run.steps Session.onCall s (r.callsOn w taken))
  /-- The inputs that were taken were handed to the session in order, and what it returned is
  kept. -/
  verdicts : ∃ handled, handled = Session.handled (Run.steps Session.onCall s (r.callsOn w taken)) ∧
    handled.map Prod.fst = taken.filterMap Signal.input? ∧
      e.replay.verdicts = r.verdicts ++ handled.map Prod.snd
  /-- A failing restart fails once. -/
  restartFault : e.replay.restartFault = if .restart ∈ taken then none else r.restartFault
  settings : e.replay.setupFault = r.setupFault ∧ e.replay.startTime = r.startTime ∧
    e.replay.stopFault = r.stopFault
  /-- The hook is enabled first, at the time of the start, and disabled last, at that of the last
  input; on the clock of the hook these are the times that the events are stamped with. -/
  bracket : ∀ c, s.normalizer.dispatcher = .register c → ∃ inputs,
    e.trace.events = ⟨w.stamp r.startTime, .empty, .hookEnabled⟩ :: (inputs ++
      [⟨w.stamp (Signal.lastTime r.startTime taken), .empty, .hookDisabled⟩]) ∧
    ∀ event ∈ inputs, event.kind ≠ .hookEnabled ∧ event.kind ≠ .hookDisabled

/-- A run that some signals end stops its session behind them. -/
theorem callsOver_of_ended (r : Replay) (w : Surroundings) {xs : List Signal}
    {result : Except HookFault Unit}
    (ended : xs.findSome? (Signal.end? r.restartFault) = some result) :
    r.callsOver w xs = r.callsOn w xs := by
  rw [callsOver, ended]
  rfl

/-- The events of a life from start to stop stand between one that enables and one that disables. -/
theorem events_callsOn (r : Replay) (w : Surroundings) {s : Session σ} {c : Consumer σ}
    (hc : s.normalizer.dispatcher = .register c) (idle : s.phase = .idle) (xs : List Signal) :
    ∃ inputs, (Session.traceOf (Run.steps Session.onCall s (r.callsOn w xs))).events =
        ⟨w.stamp r.startTime, .empty, .hookEnabled⟩ :: (inputs ++
          [⟨w.stamp (Signal.lastTime r.startTime xs), .empty, .hookDisabled⟩]) ∧
      ∀ event ∈ inputs, event.kind ≠ .hookEnabled ∧ event.kind ≠ .hookDisabled := by
  have active := Session.received_active (Session.dispatcher_onCall hc (w, .start r.startTime))
    (Session.isActive_onCall_start idle w r.startTime)
    (Signal.callsIn r.restartFault w xs ++ [(w, .stop (Signal.lastTime r.startTime xs))])
  rw [Signal.disabling?_callsIn] at active
  refine ⟨Session.inputEvents (Run.steps Session.onCall (s.onCall (w, .start r.startTime)).1
    (Signal.callsIn r.restartFault w xs ++ [(w, .stop (Signal.lastTime r.startTime xs))])), ?_, ?_⟩
  · rw [Session.events_traceOf, callsOn, callsFrom, List.cons_append, Run.steps_cons,
      Session.received_cons]
    show (s.onCall (w, .start r.startTime)).2.trace.events ++ _ = _
    rw [Session.events_start hc idle, active]
    rfl
  · exact fun event he => Session.kind_of_input (Session.input_of_mem_inputEvents he)

section Loop

variable {r : Replay} {w : Surroundings} {s : Session σ} {n : Nat}

theorem told_looped :
    Loop.Told w (r.beginning w s) (r.looped w s n) (Loop.taken (r.turns w s n))
      (Loop.life (r.turns w s n)) :=
  Loop.told _ rfl _

theorem lifeOf_eq :
    r.lifeOf w s n = Run.steps Session.onCall s (r.callsFrom w (Loop.taken (r.turns w s n))) := by
  unfold lifeOf callsFrom
  rw [Run.steps_cons, told_looped.life]
  rfl

/-- What the loop of a run takes and leaves is the queue with the stops that were asked for. -/
theorem balance :
    Loop.taken (r.turns w s n) ++ (r.looped w s n).queue =
      r.queue ++ List.replicate (r.granted (Session.traceOf (r.lifeOf w s n)).stops) .stop := by
  rw [Loop.taken_append_queue, Loop.put_takes, lifeOf, Session.traceOf_cons, Trace.stops_append,
    granted_add, ← List.replicate_append_replicate]
  exact List.append_assoc r.queue _ _

/-- The calls behind the turns of a run. -/
abbrev closingOf (r : Replay) (w : Surroundings) (s : Session σ) (n : Nat) :
    List (Surroundings × Session.Call) :=
  Loop.closing w (r.looped w s n).result (r.looped w s n).time

theorem callsOver_taken :
    r.callsOver w (Loop.taken (r.turns w s n)) =
      r.callsFrom w (Loop.taken (r.turns w s n)) ++ r.closingOf w s n := by
  rw [closingOf, told_looped.result, told_looped.time]
  rfl

/-- The calls of a whole run are those over the turns of its loop, and those behind them. -/
theorem steps_callsOver :
    Run.steps Session.onCall s (r.callsOver w (Loop.taken (r.turns w s n))) =
      r.lifeOf w s n ++
        Run.steps Session.onCall (r.looped w s n).session (r.closingOf w s n) := by
  rw [callsOver_taken, Run.steps_append, ← lifeOf_eq, told_looped.session]
  rfl

/-- What a run has come to whose loop has taken these turns. -/
abbrev endOf (r : Replay) (w : Surroundings) (s : Session σ) (n : Nat) : RunEnd σ :=
  (r.looped w s n).ending r w (r.lifeOf w s n)

theorem session_endOf :
    (r.endOf w s n).session =
      Run.final Session.onCall s (r.callsOver w (Loop.taken (r.turns w s n))) := by
  show Run.final Session.onCall (r.looped w s n).session (r.closingOf w s n) = _
  rw [callsOver_taken, Run.final_append, callsFrom, Run.final_cons, told_looped.session]
  rfl

theorem trace_endOf :
    (r.endOf w s n).trace =
      Session.traceOf
        (Run.steps Session.onCall s (r.callsOver w (Loop.taken (r.turns w s n)))) := by
  rw [steps_callsOver]
  rfl

/-- The inputs of a run are handled in its loop. -/
theorem handled_callsOver :
    Session.handled (Run.steps Session.onCall s (r.callsOver w (Loop.taken (r.turns w s n)))) =
      Session.handled (r.lifeOf w s n) := by
  have quiet : Session.handled
      (Run.steps Session.onCall (r.looped w s n).session (r.closingOf w s n)) = [] := by
    unfold closingOf
    cases (r.looped w s n).result <;> rfl
  rw [steps_callsOver, Session.handled_append, quiet, List.append_nil]

theorem inputs_lifeOf :
    (Session.handled (r.lifeOf w s n)).map Prod.fst =
      (Loop.taken (r.turns w s n)).filterMap Signal.input? := by
  rw [lifeOf_eq, callsFrom, Run.steps_cons]
  exact Signal.handled_callsIn _ w _

/-- What a run takes and leaves is the queue with the stops that were asked for. -/
theorem conserved_endOf :
    Loop.taken (r.turns w s n) ++ (r.endOf w s n).replay.queue =
      r.queue ++ List.replicate (r.granted (r.endOf w s n).trace.stops) .stop := by
  show Loop.taken (r.turns w s n) ++ ((r.looped w s n).queue ++ _) =
    _ ++ List.replicate (r.granted (Session.traceOf (r.lifeOf w s n ++ _)).stops) .stop
  rw [← List.append_assoc, balance, Session.traceOf_append, Trace.stops_append, granted_add,
    ← List.replicate_append_replicate, List.append_assoc]

/-- A loop that finds its end in the queue, or is asked to stop, does not run dry. -/
theorem Ends.result (h : r.Ends w s)
    (done : (r.looped w s n).result ≠ none ∨ (r.looped w s n).queue = []) :
    (r.looped w s n).result ≠ none := by
  intro running
  have goOn : ∀ x ∈ Loop.taken (r.turns w s n), x.end? r.restartFault = none :=
    List.findSome?_eq_none_iff.1 (told_looped.result.symm.trans running)
  have all := balance (r := r) (w := w) (s := s) (n := n)
  rw [done.resolve_left fun ended => ended running, List.append_nil] at all
  rcases h with ⟨x, hx, ends⟩ | asked
  · refine ends (goOn x ?_)
    rw [all]
    exact List.mem_append_left _ hx
  · -- Run dry, the loop has taken every stop that was asked for, so there was none; but then it has
    -- made just the calls of the queue.
    have unasked : r.granted (Session.traceOf (r.lifeOf w s n)).stops = 0 := by
      by_contra some_
      have stop : .stop ∈ Loop.taken (r.turns w s n) := by
        rw [all]
        exact List.mem_append_right _ (List.mem_replicate.2 ⟨some_, rfl⟩)
      exact Option.some_ne_none _ (goOn .stop stop)
    rw [unasked, List.replicate_zero, List.append_nil] at all
    rw [lifeOf_eq, all] at unasked
    exact absurd unasked (Nat.pos_iff_ne_zero.1 asked)

/-- A loop that has ended took its end from the queue, or a stop that it was asked for over the
queue. -/
theorem ends_of_result (ended : (r.looped w s n).result ≠ none) : r.Ends w s := by
  obtain ⟨result, some_⟩ := Option.ne_none_iff_exists'.1 ended
  obtain ⟨pre, last, taken, goOn, ends⟩ := Signal.isShortest_of_findSome?
    (told_looped.result.symm.trans some_) told_looped.last
  by_cases early : ∃ x ∈ r.queue, x.end? r.restartFault ≠ none
  · exact .inl early
  · have quiet : ∀ x ∈ r.queue, x.end? r.restartFault = none := by simpa using early
    have all := balance (r := r) (w := w) (s := s) (n := n)
    rw [taken, List.append_assoc] at all
    -- The loop has taken the whole queue and then a stop, which makes no calls.
    obtain ⟨whole, stop, asked⟩ :=
      Signal.eq_of_quiet quiet goOn (Option.ne_none_iff_exists'.2 ⟨result, ends⟩) all
    rw [lifeOf_eq, taken, whole, stop] at asked
    refine .inr ?_
    rw [callsFrom, ← Signal.callsIn_append_stop]
    exact asked

end Loop

/-- **A run that is not refused and finds its end keeps its account.** -/
theorem account_run {r : Replay} {w : Surroundings} {s : Session σ} (accepted : r.refuses s = false)
    (ends : r.Ends w s) :
    ∃ taken, r.Account w s taken (r.run w s) := by
  obtain ⟨n, done, run⟩ := run_loop w accepted
  obtain ⟨result, ended⟩ := Option.ne_none_iff_exists'.1 (ends.result done)
  have found := told_looped.result.symm.trans ended
  have calls := r.callsOver_of_ended w found
  rw [run]
  refine ⟨Loop.taken (r.turns w s n), ?_⟩
  constructor
  case shortest => exact ⟨result, ended, Signal.isShortest_of_findSome? found told_looped.last⟩
  case conserved => exact conserved_endOf
  case session =>
    rw [← calls]
    exact session_endOf
  case trace =>
    rw [← calls]
    exact trace_endOf
  case verdicts =>
    rw [← calls, handled_callsOver]
    exact ⟨_, rfl, inputs_lifeOf, rfl⟩
  case restartFault => exact told_looped.armed
  case settings => exact ⟨rfl, rfl, rfl⟩
  case bracket =>
    intro c hc
    rw [trace_endOf, calls]
    exact events_callsOn r w hc (idle_of_not_refuses accepted) _

/-! ## Refused runs -/

/-- What a refused run comes to. -/
structure Refusal (r : Replay) (s : Session σ) (e : RunEnd σ) : Prop where
  trace : e.trace = []
  session : e.session = s
  /-- Nothing is taken, and a failing set-up fails once. -/
  replay : e.replay = { r with setupFault := none }
  result : e.result = some (.error (r.setupFault.elim .alreadyStarted .setupFailed))

theorem refusal_run {r : Replay} {s : Session σ} (w : Surroundings) (refused : r.refuses s = true) :
    Refusal r s (r.run w s) := by
  unfold run
  cases armed : r.setupFault with
  | some reason => exact ⟨rfl, rfl, rfl, by rw [armed]; rfl⟩
  | none =>
    have started : s.phase ≠ .idle := by simpa [refuses, armed] using refused
    rw [Session.start_of_ne_idle started]
    have same : { r with setupFault := none } = r := by rw [← armed]
    exact ⟨rfl, rfl, same.symm, by rw [armed]; rfl⟩

/-- A run waits exactly if it is not refused and does not find its end. -/
theorem waits_iff (r : Replay) (w : Surroundings) (s : Session σ) :
    (r.run w s).result = none ↔ r.refuses s = false ∧ ¬ r.Ends w s := by
  cases refused : r.refuses s with
  | true =>
    rw [(refusal_run w refused).result]
    simp
  | false =>
    obtain ⟨n, done, run⟩ := run_loop w refused
    rw [run]
    constructor
    · intro waits
      exact ⟨rfl, fun ends => ends.result done waits⟩
    · rintro ⟨-, endless⟩
      by_contra ended
      exact endless (ends_of_result ended)

/-- On an empty queue a run waits once its session is enabled. -/
example :
    let e := ({} : Replay).run {} (.new (.register .passing))
    e.result = none ∧ e.trace.events.map Event.type = [.hookEnabled] := by
  decide

/-- No run leaves a failing set-up armed, or arms a failing restart. -/
theorem setupFault_run (r : Replay) (w : Surroundings) (s : Session σ) :
    (r.run w s).replay.setupFault = none := by
  cases refused : r.refuses s with
  | true => rw [(refusal_run w refused).replay]
  | false =>
    obtain ⟨n, -, run⟩ := run_loop w refused
    rw [run]
    exact setupFault_of_not_refuses refused

theorem restartFault_run {r : Replay} (unarmed : r.restartFault = none) (w : Surroundings)
    (s : Session σ) : (r.run w s).replay.restartFault = none := by
  cases refused : r.refuses s with
  | true =>
    rw [(refusal_run w refused).replay]
    exact unarmed
  | false =>
    obtain ⟨n, -, run⟩ := run_loop w refused
    rw [run]
    refine told_looped.armed.trans ?_
    rw [show (r.beginning w s).armed = none from unarmed, ite_self]

/-! ## Runs one after the other -/

/-- The replay with more signals in its queue. -/
def queued (r : Replay) (signals : List Signal) : Replay := { r with queue := r.queue ++ signals }

end Replay

/-- A run: the signals put into the queue since the one before, and the session that is run. -/
structure Order (σ : Type) where
  signals : List Signal := []
  surroundings : Surroundings := {}
  session : Session σ

namespace Order

/-- Carries out an order; the step function of runs on one replay. -/
def onOrder (r : Replay) (o : Order σ) : Replay × RunEnd σ :=
  let e := (r.queued o.signals).run o.surroundings o.session
  (e.replay, e)

/-- One run among others. -/
abbrev OrderStep (σ : Type) := Run.Step Replay (Order σ) (RunEnd σ)

/-- The replay on which a run was made. -/
def given (st : OrderStep σ) : Replay := st.before.queued st.input.signals

/-- The run was refused. -/
def isRefused (st : OrderStep σ) : Bool := (given st).refuses st.input.session

/-- The signals that came into the queue for a run and in it. -/
def supplied (st : OrderStep σ) : List Signal :=
  st.input.signals ++ List.replicate (st.before.granted st.output.trace.stops) .stop

/-- The signals that a run consumes. -/
def consumed (st : OrderStep σ) : List Signal :=
  if isRefused st then []
  else Signal.upToEnd st.before.restartFault (st.before.queue ++ supplied st)

/-- The inputs that a run hands to its session, with the verdicts on them. -/
def handled (st : OrderStep σ) : List (RawInput × Verdict) :=
  Session.handled (Run.steps Session.onCall st.input.session
    ((given st).callsOn st.input.surroundings (consumed st)))

/-- The failure that was armed for a restart happened in this run. -/
def failsRestart (st : OrderStep σ) : Bool :=
  st.before.restartFault.isSome && st.after.restartFault.isNone

/-- The accounts of runs on one replay. -/
structure Accounts (r : Replay) (orders : List (Order σ)) : Prop where
  /-- A refused run does nothing. -/
  refused : ∀ st ∈ Run.steps onOrder r orders, isRefused st = true →
    (given st).Refusal st.input.session st.output ∧ consumed st = []
  ran : ∀ st ∈ Run.steps onOrder r orders, isRefused st = false →
    (given st).Account st.input.surroundings st.input.session (consumed st) st.output
  /-- Over all runs, signals are consumed in the order in which they come into the queue, each of
  them at most once, and those that are not consumed stay there. -/
  balance : (Run.steps onOrder r orders).flatMap consumed ++ (Run.final onOrder r orders).queue =
    r.queue ++ (Run.steps onOrder r orders).flatMap supplied
  /-- One verdict is kept for each input consumed, in the same order. -/
  verdicts : ((Run.steps onOrder r orders).flatMap handled).map Prod.fst =
      ((Run.steps onOrder r orders).flatMap consumed).filterMap Signal.input? ∧
    (Run.final onOrder r orders).verdicts =
      r.verdicts ++ ((Run.steps onOrder r orders).flatMap handled).map Prod.snd
  /-- An armed failure of the set-up refuses one run, and one of a restart ends one. -/
  setup_once : (Run.steps onOrder r orders).countP (fun st => st.before.setupFault.isSome) ≤ 1
  restart_once : (Run.steps onOrder r orders).countP failsRestart ≤ 1

section Step

variable {r : Replay} {o : Order σ}

theorem refusal_onOrder (refused : isRefused (Run.stepOf onOrder r o) = true) :
    (r.queued o.signals).Refusal o.session (onOrder r o).2 ∧
      consumed (Run.stepOf onOrder r o) = [] :=
  ⟨Replay.refusal_run o.surroundings refused, if_pos refused⟩

theorem account_onOrder (accepted : isRefused (Run.stepOf onOrder r o) = false)
    (ends : (r.queued o.signals).Ends o.surroundings o.session) :
    (r.queued o.signals).Account o.surroundings o.session
      (consumed (Run.stepOf onOrder r o)) (onOrder r o).2 := by
  obtain ⟨taken, account⟩ := Replay.account_run accepted ends
  have offered : r.queue ++ supplied (Run.stepOf onOrder r o) =
      taken ++ (onOrder r o).1.queue :=
    (List.append_assoc ..).symm.trans account.conserved.symm
  have whole : consumed (Run.stepOf onOrder r o) = taken := by
    unfold consumed
    rw [accepted]
    show Signal.upToEnd r.restartFault (r.queue ++ _) = taken
    rw [offered]
    obtain ⟨result, -, shortest⟩ := account.shortest
    exact shortest.upToEnd_append _
  rw [whole]
  exact account

variable (ends : isRefused (Run.stepOf onOrder r o) = false →
  (r.queued o.signals).Ends o.surroundings o.session)

include ends

/-- The signals that a run consumes stand before those that it leaves. -/
theorem consumed_append_queue :
    consumed (Run.stepOf onOrder r o) ++ (onOrder r o).1.queue =
      r.queue ++ supplied (Run.stepOf onOrder r o) := by
  cases refused : isRefused (Run.stepOf onOrder r o) with
  | true =>
    obtain ⟨refusal, quiet⟩ := refusal_onOrder refused
    have unasked : supplied (Run.stepOf onOrder r o) = o.signals := by
      have quiet : (onOrder r o).2.trace.stops = 0 := congrArg Trace.stops refusal.trace
      show o.signals ++ List.replicate (r.granted (onOrder r o).2.trace.stops) .stop = _
      rw [quiet, Replay.granted_zero]
      exact List.append_nil _
    rw [quiet, unasked]
    exact congrArg Replay.queue refusal.replay
  | false =>
    exact (account_onOrder refused (ends refused)).conserved.trans (List.append_assoc ..)

/-- A run hands over the inputs that it consumes, and keeps the verdicts on them. -/
theorem handled_onOrder :
    (handled (Run.stepOf onOrder r o)).map Prod.fst =
        (consumed (Run.stepOf onOrder r o)).filterMap Signal.input? ∧
      (onOrder r o).1.verdicts = r.verdicts ++ (handled (Run.stepOf onOrder r o)).map Prod.snd := by
  cases refused : isRefused (Run.stepOf onOrder r o) with
  | true =>
    obtain ⟨refusal, quiet⟩ := refusal_onOrder refused
    have nothing : handled (Run.stepOf onOrder r o) = [] := by
      unfold handled
      rw [quiet]
      rfl
    rw [quiet, nothing]
    exact ⟨rfl, (congrArg Replay.verdicts refusal.replay).trans (List.append_nil _).symm⟩
  | false =>
    obtain ⟨_, rfl, inputs, verdicts⟩ := (account_onOrder refused (ends refused)).verdicts
    exact ⟨inputs, verdicts⟩

end Step

/-- **The accounts of all runs.** Whatever runs are made on a replay, each with the session and the
consumer that it is given, if every run that is not refused finds its end. -/
theorem accounts (r : Replay) (orders : List (Order σ))
    (ends : ∀ st ∈ Run.steps onOrder r orders, isRefused st = false →
      (given st).Ends st.input.surroundings st.input.session) : Accounts r orders := by
  have steps {P : OrderStep σ → Prop} (holds : ∀ r o, (isRefused (Run.stepOf onOrder r o) = false →
      (r.queued o.signals).Ends o.surroundings o.session) → P (Run.stepOf onOrder r o)) :
      ∀ st ∈ Run.steps onOrder r orders, P st := by
    intro st hst
    obtain ⟨pre, o, post, -, rfl⟩ := Run.mem_steps_iff.1 hst
    exact holds _ o (ends _ hst)
  constructor
  case refused => exact steps fun r o _ refused => refusal_onOrder refused
  case ran => exact steps fun r o ends accepted => account_onOrder accepted (ends accepted)
  case balance =>
    exact Run.queue_final Replay.queue consumed supplied
      (steps fun r o ends => consumed_append_queue ends)
  case verdicts =>
    have kept := Run.queue_final Replay.verdicts (fun _ => []) (fun st => (handled st).map Prod.snd)
      (steps fun r o ends => (handled_onOrder ends).2)
    have inputs : ∀ st ∈ Run.steps onOrder r orders,
        (handled st).map Prod.fst = (consumed st).filterMap Signal.input? :=
      steps fun r o ends => (handled_onOrder ends).1
    rw [List.map_flatMap, List.map_flatMap, List.filterMap_flatMap]
    refine ⟨List.flatMap_congr inputs, ?_⟩
    rw [List.flatMap_eq_nil_iff.2 fun _ _ => rfl] at kept
    exact kept
  case setup_once =>
    refine Run.countP_le_one (fun r => r.setupFault = none) ?_ ?_ r orders
    · intro r o _
      exact Replay.setupFault_run _ _ _
    · intro r o armed
      exact ⟨Option.isSome_iff_ne_none.1 armed, Replay.setupFault_run _ _ _⟩
  case restart_once =>
    refine Run.countP_le_one (fun r => r.restartFault = none) ?_ ?_ r orders
    · intro r o unarmed
      exact Replay.restartFault_run (r := r.queued o.signals) unarmed _ _
    · intro r o fails
      obtain ⟨armed, unarmed⟩ := Bool.and_eq_true_iff.1 fails
      exact ⟨Option.isSome_iff_ne_none.1 armed, Option.isNone_iff_eq_none.1 unarmed⟩

/-- The first of two runs fails at a restart, and the second takes the stop that it has left. -/
theorem accounts_of_failed_restart :
    let listening : Session Unit := .new (.register .passing)
    let r : Replay := { restartFault := some "hook refused" }
    let orders : List (Order Unit) :=
      [{ signals := [.input (.motion ⟨1, 2⟩ 10), .restart, .stop], session := listening },
        { session := listening }]
    (∀ st ∈ Run.steps onOrder r orders, isRefused st = false →
      (given st).Ends st.input.surroundings st.input.session) ∧ Accounts r orders := by
  intro listening r orders
  have ends : ∀ st ∈ Run.steps onOrder r orders, isRefused st = false →
      (given st).Ends st.input.surroundings st.input.session := by
    intro st hst _
    rcases List.mem_cons.1 hst with rfl | hst
    · exact .inl ⟨.restart, .tail _ (.head _), Option.some_ne_none _⟩
    · obtain rfl := List.mem_singleton.1 hst
      exact .inl ⟨.stop, .head _, Option.some_ne_none _⟩
  exact ⟨ends, accounts r orders ends⟩

end Order

end InputTap.Capture
