import InputTap.Proofs.Relay.Turns
import InputTap.Proofs.Replay.Loop
import InputTap.Proofs.Session.Lifecycle

/-!
# What a relay delivers

The events that a relay passes on reach the receiver in the order in which they were dispatched, and
an event is lost only to a full buffer or to a receiver that is gone or goes. An event for a
receiver that is gone stops the hook, and so does a press of the stop key: the loop of a run takes
nothing that is put into its queue later. `delivers` says so of every way in which hook and receiver
can take turns.
-/

set_option autoImplicit false

namespace InputTap.Capture.Relay

variable (r : Relay)

/-- Some turn dispatches a press of the stop key, or finds the receiver gone. -/
def Requests (turns : List TurnStep) : Prop :=
  ∃ st ∈ turns, ∃ e, st.input = .dispatch e ∧ (r.PressesStopKey e ∨ st.before.isOpen = false)

/-- The relay asks for a stop exactly at such a turn. -/
theorem stops_pos_iff (c : Channel) (turns : List Turn) :
    (∃ reply ∈ (Run.steps r.onTurn c turns).filterMap Run.Step.output, 0 < reply.2.stops) ↔
      r.Requests (Run.steps r.onTurn c turns) := by
  constructor
  · rintro ⟨⟨e, a⟩, reply, asks⟩
    obtain ⟨st, hst, out⟩ := List.mem_filterMap.1 reply
    obtain ⟨pre, t, post, -, rfl⟩ := Run.mem_steps_iff.1 hst
    cases t with
    | receiver step => cases out
    | dispatch e =>
      cases out
      exact ⟨_, hst, e, rfl, (r.stops_answer_pos_iff _ e).1 asks⟩
  · rintro ⟨st, hst, e, dispatches, why⟩
    obtain ⟨pre, t, post, -, rfl⟩ := Run.mem_steps_iff.1 hst
    obtain rfl : t = .dispatch e := dispatches
    exact ⟨_, List.mem_filterMap.2 ⟨_, hst, rfl⟩, (r.stops_answer_pos_iff _ e).2 why⟩

/-- A trace that the relay has answered asks for a stop exactly if it was requested. -/
theorem stops_trace_pos_iff {t : Trace} {c : Channel} {schedule : List (List ReceiverStep)}
    (answered : t.replies = (r.consumer c schedule).replies t.events) :
    0 < t.stops ↔ r.Requests (Run.steps r.onTurn c (turnsOf schedule t.events)) := by
  rw [Trace.stops_pos_iff, answered, r.replies_consumer, r.stops_pos_iff]

/-- What becomes of the events that are dispatched to a relay, and of the hook. -/
structure Delivers (capacity : Nat) : Prop where
  /-- The events received and then those still buffered were dispatched in this order. -/
  order : ∀ turns, ((Run.final r.onTurn (.new capacity) turns).received ++
    (Run.final r.onTurn (.new capacity) turns).buffered).Sublist (turns.filterMap Turn.event?)
  bounded : ∀ turns,
    (Run.final r.onTurn (.new capacity) turns).buffered.length ≤ max capacity 1
  /-- An event is refused only by a full buffer or for want of a receiver. -/
  accepts : ∀ turns, ∀ st ∈ Run.steps r.onTurn (.new capacity) turns, ∀ e,
    st.input = .dispatch e → accepted st =
      if st.before.isOpen = true ∧ st.before.buffered.length < max capacity 1 then [e] else []
  /-- An event that is not refused is received, unless it is buffered still or was when the receiver
  was dropped. -/
  kept : ∀ turns, (Run.steps r.onTurn (.new capacity) turns).flatMap accepted =
    (Run.final r.onTurn (.new capacity) turns).received ++
      (Run.steps r.onTurn (.new capacity) turns).flatMap dropped ++
      (Run.final r.onTurn (.new capacity) turns).buffered
  /-- An answer asks for a stop for a press of the stop key, and for a receiver that is gone. -/
  asks : ∀ turns, ∀ st ∈ Run.steps r.onTurn (.new capacity) turns, ∀ e, st.input = .dispatch e →
    st.output.map (fun reply => (reply.1, reply.2.stops)) =
      some (e, (if r.PressesStopKey e then 1 else 0) + if st.before.isOpen then 0 else 1)
  /-- A session that the relay listens to has dispatched its events in such turns. -/
  listens : ∀ (s : Session RelayState) c schedule calls,
    s.normalizer.dispatcher = .register (r.consumer c schedule) →
      let trace := Session.traceOf (Run.steps Session.onCall s calls)
      let turns := turnsOf schedule trace.events
      (Run.final Session.onCall s calls).normalizer.dispatcher =
          .register (r.consumer (Run.final r.onTurn c turns) (schedule.drop trace.events.length)) ∧
        trace.replies = (Run.steps r.onTurn c turns).filterMap Run.Step.output
  /-- Where a run starts with a request, stops are put behind the queue that it was given, and the
  run takes nothing behind the first of them. -/
  stopped_at_start : ∀ (p : Replay) w (s : Session RelayState) c schedule, p.stopFault = none →
    s.normalizer.dispatcher = .register (r.consumer c schedule) →
      r.Requests (Run.steps r.onTurn c
        (turnsOf schedule (s.onCall (w, .start p.startTime)).2.trace.events)) →
      let stops := (s.onCall (w, .start p.startTime)).2.trace.stops
      0 < stops ∧ (p.beginning w s).queue = p.queue ++ List.replicate stops .stop ∧
        ∀ turns, Loop.taken (Run.steps (Loop.onTurn p w) (p.beginning w s) turns) <+:
          p.queue ++ [.stop]
  /-- Where a signal leads to a request, stops are put behind the queue that the signal left, and the
  run takes nothing behind the first of them. -/
  stopped : ∀ (p : Replay) w (l : Loop RelayState) c schedule, p.stopFault = none →
    l.session.normalizer.dispatcher = .register (r.consumer c schedule) →
      r.Requests (Run.steps r.onTurn c
        (turnsOf schedule (Session.traceOf (l.onTurn p w .take).2.calls).events)) →
      let stops := (Session.traceOf (l.onTurn p w .take).2.calls).stops
      0 < stops ∧ (l.onTurn p w .take).1.queue = l.queue.tail ++ List.replicate stops .stop ∧
        ∀ turns, Loop.taken (Run.steps (Loop.onTurn p w) (l.onTurn p w .take).1 turns) <+:
          l.queue.tail ++ [.stop]
  /-- A run that is not refused is such a loop in which nothing arrives. -/
  loops : ∀ (p : Replay) w (s : Session RelayState), p.refuses s = false → ∃ n,
    ((p.looped w s n).result ≠ none ∨ (p.looped w s n).queue = []) ∧
      p.run w s = (p.looped w s n).ending p w (p.lifeOf w s n)

/-- Where stops stand behind a queue, a loop takes nothing behind the first of them. -/
theorem stopped_of_pos {p : Replay} (w : Surroundings) {l : Loop RelayState} {front : List Signal}
    {stops : Nat} (works : p.stopFault = none) (asked : 0 < stops)
    (queue : l.queue = front ++ List.replicate (p.granted stops) .stop) :
    0 < stops ∧ l.queue = front ++ List.replicate stops .stop ∧
      ∀ turns, Loop.taken (Run.steps (Loop.onTurn p w) l turns) <+: front ++ [.stop] := by
  have granted : p.granted stops = stops := by simp [Replay.granted, works]
  rw [granted] at queue
  refine ⟨asked, queue, fun turns => ?_⟩
  obtain ⟨n, rfl⟩ := Nat.exists_eq_add_one_of_ne_zero (Nat.ne_of_gt asked)
  exact Loop.taken_isPrefix (queue.trans (congrArg (front ++ ·) List.replicate_succ)) turns

/-- **A relay delivers** what it is dispatched, for every capacity, policy and stop key, and however
hook and receiver take turns. -/
theorem delivers (capacity : Nat) : r.Delivers capacity := by
  have sound := r.isSound_final (Channel.isSound_new capacity)
  have width : (Channel.new capacity).capacity = max capacity 1 := Nat.max_comm 1 capacity
  have kept : ∀ turns, (Run.steps r.onTurn (.new capacity) turns).flatMap accepted =
      (Run.final r.onTurn (.new capacity) turns).received ++
        (Run.steps r.onTurn (.new capacity) turns).flatMap dropped ++
        (Run.final r.onTurn (.new capacity) turns).buffered :=
    fun turns => r.accepted_append (Channel.isSound_new capacity) turns
  constructor
  case order =>
    intro turns
    refine List.Sublist.trans ?_ (r.accepted_sublist (.new capacity) turns)
    rw [kept]
    exact (List.sublist_append_left _ _).append_right _
  case bounded =>
    intro turns
    rw [← width, ← (sound turns).2]
    exact (sound turns).1.bounded
  case accepts =>
    intro turns st hst e dispatches
    obtain ⟨pre, t, post, -, rfl⟩ := Run.mem_steps_iff.1 hst
    obtain rfl : t = .dispatch e := dispatches
    rw [r.accepted_dispatch, (sound pre).2, width]
    rfl
  case kept => exact kept
  case asks =>
    intro turns st hst e dispatches
    obtain ⟨pre, t, post, -, rfl⟩ := Run.mem_steps_iff.1 hst
    obtain rfl : t = .dispatch e := dispatches
    exact congrArg (fun n => some (e, n)) (r.stops_answer _ e)
  case listens =>
    intro s c schedule calls hc
    refine ⟨?_, (Session.replies_traceOf hc calls).trans (r.replies_consumer ..)⟩
    rw [Session.listening_after hc, Session.events_traceOf, r.fed_consumer]
  case stopped_at_start =>
    intro p w s c schedule works hc requests
    have asked := (r.stops_trace_pos_iff (Session.replies_onCall hc _)).2 requests
    exact stopped_of_pos w works asked rfl
  case stopped =>
    intro p w l c schedule works hc requests
    obtain ⟨-, x, rest, next, taking⟩ | ⟨-, idle⟩ := Loop.onTurn_take (r := p) (w := w) l
    · rw [taking] at requests ⊢
      rw [next]
      have asked := (r.stops_trace_pos_iff (Session.replies_traceOf hc _)).2 requests
      exact stopped_of_pos w works asked rfl
    · rw [idle] at requests
      obtain ⟨st, hst, -⟩ := requests
      cases hst
  case loops => exact fun p w s accepted => Replay.run_loop w accepted

end InputTap.Capture.Relay
