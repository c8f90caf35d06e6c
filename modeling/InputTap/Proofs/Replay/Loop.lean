import InputTap.Capture.Replay
import InputTap.Proofs.Session.Trace

/-!
# The loop of a run

Between the start and the stop of its session a run is a loop that takes one signal after the other
from its queue. `Loop.onTurn` is the step function of that loop. A turn takes a signal, or a signal
arrives from elsewhere while the loop goes on. Nothing is lost from the queue or taken out of order
(`Loop.taken_append_queue`), and a loop is told by the signals that it has taken (`Loop.told`): the
session has had the calls of these signals, and only the last of them may end the loop. A run that
is not refused is such a loop in which nothing arrives; it stops its session if the loop has ended,
and otherwise waits (`Replay.run_loop`).
-/

set_option autoImplicit false

namespace InputTap.Capture

variable {σ : Type}

theorem Replay.granted_zero {r : Replay} : r.granted 0 = 0 := by
  unfold granted
  split <;> rfl

theorem Replay.granted_add (r : Replay) (a b : Nat) :
    r.granted (a + b) = r.granted a + r.granted b := by
  unfold granted
  split <;> rfl

namespace Signal

/-- How a run ends with a signal, if it does. A restart ends it only while its failure is armed. -/
def end? (armed : Option String) : Signal → Option (Except HookFault Unit)
  | .input _ => none
  | .restart => armed.map fun reason => .error (.setupFailed reason)
  | .stop => some (.ok ())

/-- The calls that a run makes for a signal. -/
def calls (armed : Option String) : Signal → List Session.Call
  | .input raw => [.handle raw]
  | .restart => if armed.isSome then [.beginRestart] else [.beginRestart, .finishRestart]
  | .stop => []

/-- The failure that is still armed after a signal. -/
def disarm (armed : Option String) : Signal → Option String
  | .restart => none
  | _ => armed

def input? : Signal → Option RawInput
  | .input raw => some raw
  | _ => none

/-- The calls that a run makes for some signals. -/
def callsIn (armed : Option String) (w : Surroundings) (xs : List Signal) :
    List (Surroundings × Session.Call) :=
  (xs.flatMap (calls armed)).map fun call => (w, call)

/-- The time of the last input among some signals. -/
def lastTime (start : Millis) (xs : List Signal) : Millis :=
  ((xs.filterMap input?).getLast?.map RawInput.time).getD start

theorem callsIn_cons (armed : Option String) (w : Surroundings) (x : Signal) (xs : List Signal) :
    callsIn armed w (x :: xs) = callsIn armed w [x] ++ callsIn armed w xs := by
  simp [callsIn]

theorem lastTime_cons (start : Millis) (x : Signal) (xs : List Signal) :
    lastTime start (x :: xs) = lastTime (lastTime start [x]) xs := by
  unfold lastTime
  cases h : x.input? with
  | none => simp [h]
  | some raw =>
    cases last : (xs.filterMap input?).getLast? <;> simp [h, List.getLast?_cons, last]

/-- A signal that does not end a run disarms nothing. -/
theorem disarm_of_end? {armed : Option String} {x : Signal} (h : x.end? armed = none) :
    x.disarm armed = armed := by
  cases x with
  | input raw => rfl
  | stop => rfl
  | restart => exact (Option.map_eq_none_iff.1 h).symm

end Signal

/-- A run between the start and the stop of its session. -/
structure Loop (σ : Type) where
  session : Session σ
  queue : List Signal
  /-- The time of the last input. -/
  time : Millis
  /-- The reason with which the next restart fails. -/
  armed : Option String
  /-- How the loop has ended, once it has. -/
  result : Option (Except HookFault Unit) := none

namespace Loop

/-- What happens next. -/
inductive Turn
  /-- The loop takes the next signal. -/
  | take
  /-- A signal is put into the queue from elsewhere. -/
  | arrive (x : Signal)
deriving DecidableEq, Inhabited

/-- The signal that a turn took, if any, and the calls that were made for it. -/
structure Taking (σ : Type) where
  signal : Option Signal := none
  calls : List (Session.CallStep σ) := []

variable (r : Replay) (w : Surroundings)

/-- Takes a signal that leaves some others in the queue. -/
def take (l : Loop σ) (x : Signal) (rest : List Signal) : Loop σ × Taking σ :=
  let calls := Signal.callsIn l.armed w [x]
  let sts := Run.steps Session.onCall l.session calls
  ({ session := Run.final Session.onCall l.session calls
     queue := rest ++ List.replicate (r.granted (Session.traceOf sts).stops) .stop
     time := Signal.lastTime l.time [x]
     armed := x.disarm l.armed
     result := x.end? l.armed },
    { signal := some x, calls := sts })

/-- Takes a turn; a loop that has ended takes no more signals. -/
def onTurn (l : Loop σ) : Turn → Loop σ × Taking σ
  | .arrive x => ({ l with queue := l.queue ++ [x] }, {})
  | .take =>
    match l.result, l.queue with
    | none, x :: rest => l.take r w x rest
    | _, _ => (l, {})

/-- One turn of a loop. -/
abbrev TurnStep (σ : Type) := Run.Step (Loop σ) Turn (Taking σ)

/-- The signals that some turns took. -/
def taken (sts : List (TurnStep σ)) : List Signal :=
  sts.flatMap fun st => st.output.signal.toList

/-- The calls that some turns made. -/
def life (sts : List (TurnStep σ)) : List (Session.CallStep σ) :=
  sts.flatMap fun st => st.output.calls

theorem taken_cons (st : TurnStep σ) (sts : List (TurnStep σ)) :
    taken (st :: sts) = st.output.signal.toList ++ taken sts := rfl

theorem life_cons (st : TurnStep σ) (sts : List (TurnStep σ)) :
    life (st :: sts) = st.output.calls ++ life sts := rfl

/-- The signals that a turn put into the queue. -/
def put (st : TurnStep σ) : List Signal :=
  (match st.input with | .take => [] | .arrive x => [x]) ++
    List.replicate (r.granted (Session.traceOf st.output.calls).stops) .stop

/-! ## One turn -/

variable {r w}

/-- A turn takes the first signal of the queue, unless the loop has ended or the queue is empty. -/
theorem onTurn_take (l : Loop σ) :
    (l.result = none ∧ ∃ x rest, l.queue = x :: rest ∧ l.onTurn r w .take = l.take r w x rest) ∨
      (l.result ≠ none ∨ l.queue = []) ∧ l.onTurn r w .take = (l, {}) := by
  unfold onTurn
  cases ended : l.result with
  | some result => exact .inr ⟨.inl (Option.some_ne_none result), rfl⟩
  | none =>
    cases next : l.queue with
    | nil => exact .inr ⟨.inr rfl, rfl⟩
    | cons x rest => exact .inl ⟨rfl, x, rest, rfl, rfl⟩

theorem put_arrive (l : Loop σ) (x : Signal) :
    put r (Run.stepOf (onTurn r w) l (.arrive x)) = [x] := by
  show [x] ++ List.replicate (r.granted 0) .stop = [x]
  rw [Replay.granted_zero]
  rfl

theorem put_take (l : Loop σ) :
    put r (Run.stepOf (onTurn r w) l .take) =
      List.replicate (r.granted (Session.traceOf (l.onTurn r w .take).2.calls).stops) .stop := rfl

/-- A turn takes from the front of the queue and puts at its end. -/
theorem conserved_onTurn (l : Loop σ) (t : Turn) :
    (l.onTurn r w t).2.signal.toList ++ (l.onTurn r w t).1.queue =
      l.queue ++ put r (Run.stepOf (onTurn r w) l t) := by
  cases t with
  | arrive x =>
    rw [put_arrive]
    rfl
  | take =>
    rw [put_take]
    obtain ⟨-, x, rest, next, taking⟩ | ⟨-, idle⟩ := onTurn_take (r := r) (w := w) l
    · rw [taking, next]
      rfl
    · rw [idle]
      show l.queue = l.queue ++ List.replicate (r.granted 0) .stop
      rw [Replay.granted_zero]
      exact (List.append_nil _).symm

/-! ## All turns -/

/-- Signals are taken in the order in which they stand in the queue and are put into it, and those
that are not taken stay there. -/
theorem taken_append_queue (l : Loop σ) (turns : List Turn) :
    taken (Run.steps (onTurn r w) l turns) ++ (Run.final (onTurn r w) l turns).queue =
      l.queue ++ (Run.steps (onTurn r w) l turns).flatMap (put r) := by
  refine Run.queue_final Loop.queue _ (put r) fun st hst => ?_
  obtain ⟨pre, t, post, -, rfl⟩ := Run.mem_steps_iff.1 hst
  exact conserved_onTurn _ t

/-- A loop that has ended takes nothing. -/
theorem after_end {l : Loop σ} (ended : l.result ≠ none) (turns : List Turn) :
    taken (Run.steps (onTurn r w) l turns) = [] ∧ life (Run.steps (onTurn r w) l turns) = [] ∧
      Run.final (onTurn r w) l turns =
        { l with queue := (Run.final (onTurn r w) l turns).queue } := by
  induction turns generalizing l with
  | nil => exact ⟨rfl, rfl, rfl⟩
  | cons t turns ih =>
    rw [Run.steps_cons, Run.final_cons, taken_cons, life_cons]
    cases t with
    | arrive x => exact ih (l := { l with queue := l.queue ++ [x] }) ended
    | take =>
      obtain ⟨running, -⟩ | ⟨-, idle⟩ := onTurn_take (r := r) (w := w) l
      · exact absurd running ended
      · simp only [Run.stepOf, idle]
        exact ih ended

/-- What some turns come to, told by the signals that they took. -/
structure Told (w : Surroundings) (l l' : Loop σ) (xs : List Signal)
    (sts : List (Session.CallStep σ)) : Prop where
  session : l'.session = Run.final Session.onCall l.session (Signal.callsIn l.armed w xs)
  life : sts = Run.steps Session.onCall l.session (Signal.callsIn l.armed w xs)
  time : l'.time = Signal.lastTime l.time xs
  armed : l'.armed = if .restart ∈ xs then none else l.armed
  result : l'.result = xs.findSome? (Signal.end? l.armed)
  last : ∀ x ∈ xs.dropLast, x.end? l.armed = none

namespace Told

variable {l l' : Loop σ} {xs : List Signal} {sts : List (Session.CallStep σ)}

theorem of_queue {q : List Signal} (h : Told w { l with queue := q } l' xs sts) :
    Told w l l' xs sts :=
  ⟨h.session, h.life, h.time, h.armed, h.result, h.last⟩

/-- A signal that does not end the loop comes before those that are taken later. -/
theorem cons {x : Signal} {rest : List Signal} (goesOn : x.end? l.armed = none)
    (h : Told w (l.take r w x rest).1 l' xs sts) :
    Told w l l' (x :: xs) ((l.take r w x rest).2.calls ++ sts) := by
  have armed : (l.take r w x rest).1.armed = l.armed := Signal.disarm_of_end? goesOn
  obtain ⟨session, life, time, disarmed, result, last⟩ := h
  rw [armed] at session life disarmed result last
  constructor
  case session =>
    rw [session, Signal.callsIn_cons, Run.final_append]
    rfl
  case life =>
    rw [life, Signal.callsIn_cons, Run.steps_append]
    rfl
  case time =>
    rw [time, Signal.lastTime_cons]
    rfl
  case armed =>
    rw [disarmed]
    cases x with
    | input raw => simp
    | stop => simp
    | restart =>
      rw [show l.armed = none from Option.map_eq_none_iff.1 goesOn, ite_self, ite_self]
  case result => rw [result, List.findSome?_cons, goesOn]
  case last =>
    cases xs with
    | nil => exact List.forall_mem_nil _
    | cons y xs => exact List.forall_mem_cons.2 ⟨goesOn, last⟩

/-- A loop that takes one signal. -/
theorem single (x : Signal) (rest q : List Signal) :
    Told w l { (l.take r w x rest).1 with queue := q } [x] (l.take r w x rest).2.calls := by
  refine ⟨rfl, rfl, rfl, ?_, (List.findSome?_singleton ..).symm, List.forall_mem_nil _⟩
  show x.disarm l.armed = _
  cases x <;> simp [Signal.disarm]

end Told

/-- A loop that runs is told by the signals that it takes. -/
theorem told (l : Loop σ) (running : l.result = none) (turns : List Turn) :
    Told w l (Run.final (onTurn r w) l turns) (taken (Run.steps (onTurn r w) l turns))
      (life (Run.steps (onTurn r w) l turns)) := by
  induction turns generalizing l with
  | nil => exact ⟨rfl, rfl, rfl, rfl, running, List.forall_mem_nil _⟩
  | cons t turns ih =>
    rw [Run.steps_cons, Run.final_cons, taken_cons, life_cons]
    cases t with
    | arrive x => exact (ih { l with queue := l.queue ++ [x] } running).of_queue
    | take =>
      obtain ⟨-, x, rest, -, taking⟩ | ⟨-, idle⟩ := onTurn_take (r := r) (w := w) l
      · simp only [Run.stepOf, taking]
        cases goesOn : x.end? l.armed with
        | none => exact (ih (l.take r w x rest).1 goesOn).cons goesOn
        | some result =>
          have ended : (l.take r w x rest).1.result ≠ none := by
            rw [show (l.take r w x rest).1.result = _ from goesOn]
            exact Option.some_ne_none result
          -- From here on turns only put signals into the queue.
          obtain ⟨nothing, quiet, same⟩ := after_end (r := r) (w := w) ended turns
          rw [nothing, quiet, same, List.append_nil, List.append_nil]
          exact .single x rest _
      · simp only [Run.stepOf, idle]
        exact ih l running

/-- A stop in the queue is the last signal that the loop takes, whatever is put behind it. -/
theorem taken_isPrefix {l : Loop σ} {front back : List Signal}
    (queue : l.queue = front ++ .stop :: back) (turns : List Turn) :
    taken (Run.steps (onTurn r w) l turns) <+: front ++ [.stop] := by
  cases ended : l.result with
  | some result =>
    rw [(after_end (by rw [ended]; exact Option.some_ne_none result) turns).1]
    exact List.nil_prefix
  | none =>
    have told := told (r := r) (w := w) l ended turns
    have all := taken_append_queue (r := r) (w := w) l turns
    rw [queue, List.append_cons, List.append_assoc] at all
    -- Both lists are prefixes of all that ever comes into the queue, so one is one of the other.
    rcases List.prefix_or_prefix_of_prefix ⟨_, all⟩ (List.prefix_append (front ++ [.stop]) _) with
      short | ⟨more, long⟩
    · exact short
    · rcases more with _ | ⟨x, more⟩
      · have whole := long.symm.trans (List.append_nil _)
        exact ⟨[], (List.append_nil _).trans whole⟩
      · have early : .stop ∈ (taken (Run.steps (onTurn r w) l turns)).dropLast := by
          rw [← long, List.dropLast_append_cons]
          simp
        exact absurd (told.last .stop early) (Option.some_ne_none _)

/-! ## The loop of a run -/

/-- What a run comes to with a loop that has made these calls. -/
def drained (l : Loop σ) (sts : List (Session.CallStep σ)) : Drained σ where
  session := l.session
  rest := l.queue
  time := l.time
  verdicts := (Session.handled sts).map Prod.snd
  trace := Session.traceOf sts
  restartFault := l.armed
  result := l.result

/-- Where nothing arrives, all that is put into the queue is the stops that were granted. -/
theorem put_takes (l : Loop σ) (n : Nat) :
    (Run.steps (onTurn r w) l (List.replicate n .take)).flatMap (put r) =
      List.replicate (r.granted (Session.traceOf
        (life (Run.steps (onTurn r w) l (List.replicate n .take)))).stops) .stop := by
  induction n generalizing l with
  | zero => exact (congrArg (List.replicate · _) Replay.granted_zero).symm
  | succ n ih =>
    rw [List.replicate_succ, Run.steps_cons, List.flatMap_cons, ih, life_cons,
      Session.traceOf_append, Trace.stops_append, Replay.granted_add,
      ← List.replicate_append_replicate]
    rfl

/-- The loop takes signals until it ends or there are none, and then this is what it has come to. -/
def Drains (r : Replay) (w : Surroundings) (l : Loop σ) (d : Drained σ) : Prop :=
  ∃ n, let turns := List.replicate n Turn.take
    let l' := Run.final (onTurn r w) l turns
    (l'.result ≠ none ∨ l'.queue = []) ∧ d = l'.drained (life (Run.steps (onTurn r w) l turns))

theorem Drains.nil {l : Loop σ} (idle : l.result ≠ none ∨ l.queue = []) :
    Drains r w l (l.drained []) := ⟨0, idle, rfl⟩

/-- A loop takes a signal before it drains. -/
theorem Drains.cons {l l' : Loop σ} {x : Signal} {rest : List Signal}
    {sts : List (Session.CallStep σ)} {d : Drained σ} {t : Trace} {verdicts : List Verdict}
    (running : l.result = none) (next : l.queue = x :: rest)
    (taking : l.take r w x rest = (l', ⟨some x, sts⟩)) (happened : Session.traceOf sts = t)
    (judged : (Session.handled sts).map Prod.snd = verdicts) (h : Drains r w l' d) :
    Drains r w l { d with verdicts := verdicts ++ d.verdicts, trace := t ++ d.trace } := by
  obtain ⟨n, idle, rfl⟩ := h
  have turn : l.onTurn r w .take = (l', ⟨some x, sts⟩) := by
    unfold onTurn
    rw [running, next]
    exact taking
  refine ⟨n + 1, ?_⟩
  simp only [List.replicate_succ, Run.steps_cons, Run.final_cons, life_cons, Run.stepOf, turn]
  refine ⟨idle, ?_⟩
  unfold drained
  rw [Session.handled_append, List.map_append, Session.traceOf_append, happened, judged]

/-- A loop that a signal ends has drained. -/
theorem Drains.last {l l' : Loop σ} {x : Signal} {rest : List Signal}
    {sts : List (Session.CallStep σ)} {t : Trace} {verdicts : List Verdict}
    (running : l.result = none) (next : l.queue = x :: rest)
    (taking : l.take r w x rest = (l', ⟨some x, sts⟩)) (happened : Session.traceOf sts = t)
    (judged : (Session.handled sts).map Prod.snd = verdicts) (ended : l'.result ≠ none) :
    Drains r w l { l'.drained [] with verdicts, trace := t } := by
  have h := Drains.cons running next taking happened judged (.nil (.inl ended))
  rw [show (l'.drained []).verdicts = [] from rfl, show (l'.drained []).trace = [] from rfl,
    List.append_nil, List.append_nil] at h
  exact h

section Take

variable (l : Loop σ) (rest : List Signal)

/-- Taking a signal puts a stop into the queue for each stop that was granted. -/
theorem take_eq {x : Signal} {sts : List (Session.CallStep σ)} {stops : Nat}
    (calls : Run.steps Session.onCall l.session (Signal.callsIn l.armed w [x]) = sts)
    (asked : (Session.traceOf sts).stops = stops) :
    l.take r w x rest =
      ({ session := Run.final Session.onCall l.session (Signal.callsIn l.armed w [x])
         queue := rest ++ List.replicate (r.granted stops) .stop
         time := Signal.lastTime l.time [x]
         armed := x.disarm l.armed
         result := x.end? l.armed },
        { signal := some x, calls := sts }) := by
  subst calls asked
  rfl

/-- A signal without a stop request leaves the queue as it is. -/
theorem take_quiet {x : Signal} {sts : List (Session.CallStep σ)}
    (calls : Run.steps Session.onCall l.session (Signal.callsIn l.armed w [x]) = sts)
    (quiet : (Session.traceOf sts).stops = 0) :
    l.take r w x rest =
      ({ session := Run.final Session.onCall l.session (Signal.callsIn l.armed w [x])
         queue := rest
         time := Signal.lastTime l.time [x]
         armed := x.disarm l.armed
         result := x.end? l.armed },
        { signal := some x, calls := sts }) := by
  rw [take_eq l rest calls quiet, Replay.granted_zero, List.replicate_zero, List.append_nil]

theorem take_stop :
    l.take r w .stop rest =
      ({ l with queue := rest, result := some (.ok ()) }, { signal := some .stop }) :=
  take_quiet l rest rfl rfl

theorem take_input (raw : RawInput) :
    l.take r w (.input raw) rest =
      ({ l with
          session := (l.session.handle w raw).1
          queue := rest ++ List.replicate (r.granted (l.session.handle w raw).2.stops) .stop
          time := raw.time
          result := none },
        { signal := some (.input raw)
          calls := [Run.stepOf Session.onCall l.session (w, .handle raw)] }) :=
  take_eq l rest rfl (congrArg Trace.stops (List.append_nil _))

/-- A restart goes on unless its failure is armed. -/
theorem take_restart_of_none (h : l.armed = none) :
    l.take r w .restart rest =
      ({ l with
          session := (l.session.beginRestart.1.finishRestart w).1
          queue := rest
          result := none },
        { signal := some .restart
          calls := [Run.stepOf Session.onCall l.session (w, .beginRestart),
            Run.stepOf Session.onCall l.session.beginRestart.1 (w, .finishRestart)] }) := by
  obtain ⟨s, queue, time, armed, result⟩ := l
  subst h
  refine take_quiet _ rest rfl ?_
  rw [Session.traceOf_cons, Session.traceOf_cons, Trace.stops_append, Trace.stops_append]
  show (s.onCall (w, .beginRestart)).2.trace.stops +
    ((s.beginRestart.1.onCall (w, .finishRestart)).2.trace.stops + 0) = 0
  rw [(s.stops_restart w).1, (s.beginRestart.1.stops_restart w).2]

/-- A restart whose failure is armed ends the loop. -/
theorem take_restart_of_some {reason : String} (h : l.armed = some reason) :
    l.take r w .restart rest =
      ({ l with
          session := l.session.beginRestart.1
          queue := rest
          armed := none
          result := some (.error (.setupFailed reason)) },
        { signal := some .restart
          calls := [Run.stepOf Session.onCall l.session (w, .beginRestart)] }) := by
  obtain ⟨s, queue, time, armed, result⟩ := l
  subst h
  refine take_quiet _ rest rfl ?_
  rw [Session.traceOf_cons, Trace.stops_append]
  exact (s.stops_restart w).1

end Take

/-- The recursion of a run is the loop on its queue, `owed` stops at its end included. -/
theorem drains_drain (r : Replay) (w : Surroundings) (signals : List Signal) (owed : Nat)
    (s : Session σ) (time : Millis) :
    Drains r w
      { session := s, queue := signals ++ List.replicate owed .stop, time
        armed := r.restartFault }
      (r.drain w signals owed s time) := by
  induction signals generalizing owed s time with
  | nil =>
    cases owed with
    | zero => exact .nil (.inr rfl)
    | succ owed =>
      exact .last rfl rfl (take_stop _ _) rfl rfl (Option.some_ne_none _)
  | cons x rest ih =>
    cases x with
    | stop => exact .last rfl rfl (take_stop _ _) rfl rfl (Option.some_ne_none _)
    | restart =>
      unfold Replay.drain
      cases armed : r.restartFault with
      | none =>
        have later := ih owed (s.beginRestart.1.finishRestart w).1 time
        rw [armed] at later
        refine .cons (l := ⟨s, .restart :: (rest ++ List.replicate owed .stop), time, none, none⟩)
          rfl rfl (take_restart_of_none _ _ rfl) ?_ rfl later
        exact congrArg (s.beginRestart.2 ++ ·) (List.append_nil _)
      | some reason =>
        exact .last
          (l := ⟨s, .restart :: (rest ++ List.replicate owed .stop), time, some reason, none⟩)
          rfl rfl (take_restart_of_some _ _ rfl) (List.append_nil _) rfl (Option.some_ne_none _)
    | input raw =>
      have later := ih (owed + r.granted (s.handle w raw).2.stops) (s.handle w raw).1 raw.time
      rw [← List.replicate_append_replicate, ← List.append_assoc] at later
      exact .cons
        (l := ⟨s, .input raw :: (rest ++ List.replicate owed .stop), time, r.restartFault, none⟩)
        rfl rfl (take_input _ _ raw) (List.append_nil _) rfl later

/-- The calls behind a loop: the session is stopped once the loop has ended. -/
def closing (w : Surroundings) (result : Option (Except HookFault Unit)) (time : Millis) :
    List (Surroundings × Session.Call) :=
  match result with
  | some _ => [(w, .stop time)]
  | none => []

theorem eq_of_mem_closing {result : Option (Except HookFault Unit)} {time : Millis}
    {x : Surroundings × Session.Call} (h : x ∈ closing w result time) :
    x = (w, .stop time) := by
  cases result with
  | none => cases h
  | some result => exact List.mem_singleton.1 h

/-- A run closes by these calls. -/
theorem close_drained (l : Loop σ) (sts : List (Session.CallStep σ)) :
    (l.drained sts).close w =
      (Run.final Session.onCall l.session (closing w l.result l.time),
        Session.traceOf (Run.steps Session.onCall l.session (closing w l.result l.time))) := by
  obtain ⟨s, queue, time, armed, _ | result⟩ := l
  · rfl
  · exact Prod.ext rfl (List.append_nil _).symm

/-- What a run has come to with a loop before which and in which these calls were made. -/
def ending (r : Replay) (w : Surroundings) (l : Loop σ) (sts : List (Session.CallStep σ)) :
    RunEnd σ :=
  let stop := Run.steps Session.onCall l.session (closing w l.result l.time)
  { replay := { r with
      queue := l.queue ++ List.replicate (r.granted (Session.traceOf stop).stops) .stop
      verdicts := r.verdicts ++ (Session.handled sts).map Prod.snd
      restartFault := l.armed
      stopRequests := r.stopRequests + (Session.traceOf (sts ++ stop)).stops }
    session := Run.final Session.onCall l.session (closing w l.result l.time)
    trace := Session.traceOf (sts ++ stop)
    result := l.result }

end Loop

namespace Replay

/-- The run of a session is refused. -/
def refuses (r : Replay) (s : Session σ) : Bool := r.setupFault.isSome || s.phase != .idle

theorem idle_of_not_refuses {r : Replay} {s : Session σ} (h : r.refuses s = false) :
    s.phase = .idle := by
  simpa using (Bool.or_eq_false_iff.1 h).2

theorem setupFault_of_not_refuses {r : Replay} {s : Session σ} (h : r.refuses s = false) :
    r.setupFault = none :=
  Option.not_isSome_iff_eq_none.1 (Bool.eq_false_iff.1 (Bool.or_eq_false_iff.1 h).1)

/-- The loop of a run at its beginning. -/
def beginning (r : Replay) (w : Surroundings) (s : Session σ) : Loop σ :=
  let start := s.onCall (w, .start r.startTime)
  { session := start.1
    queue := r.queue ++ List.replicate (r.granted start.2.trace.stops) .stop
    time := r.startTime
    armed := r.restartFault }

/-- The turns of the loop of a run that takes a number of signals while nothing arrives. -/
abbrev turns (r : Replay) (w : Surroundings) (s : Session σ) (n : Nat) : List (Loop.TurnStep σ) :=
  Run.steps (Loop.onTurn r w) (r.beginning w s) (List.replicate n .take)

/-- The loop after these turns. -/
abbrev looped (r : Replay) (w : Surroundings) (s : Session σ) (n : Nat) : Loop σ :=
  Run.final (Loop.onTurn r w) (r.beginning w s) (List.replicate n .take)

/-- The calls of the session from its start over these turns. -/
def lifeOf (r : Replay) (w : Surroundings) (s : Session σ) (n : Nat) : List (Session.CallStep σ) :=
  Run.stepOf Session.onCall s (w, .start r.startTime) :: Loop.life (r.turns w s n)

/-- A run that is not refused starts its session, loops while nothing arrives until the loop ends or
the queue is empty, and stops the session in the first case and waits in the second. -/
theorem run_loop {r : Replay} {s : Session σ} (w : Surroundings) (h : r.refuses s = false) :
    ∃ n, ((r.looped w s n).result ≠ none ∨ (r.looped w s n).queue = []) ∧
      r.run w s = (r.looped w s n).ending r w (r.lifeOf w s n) := by
  have unarmed := setupFault_of_not_refuses h
  have start := Session.start_of_idle (idle_of_not_refuses h) w r.startTime
  obtain ⟨n, done, drained⟩ := Loop.drains_drain r w r.queue
    (r.granted (s.onCall (w, .start r.startTime)).2.trace.stops)
    (s.onCall (w, .start r.startTime)).1 r.startTime
  refine ⟨n, done, ?_⟩
  simp only [run, unarmed, start, drained, Loop.close_drained, Loop.ending, Session.traceOf_append]
  rfl

end Replay

end InputTap.Capture
