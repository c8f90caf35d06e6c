import InputTap.Capture.Relay
import InputTap.Proofs.Run
import InputTap.Proofs.Verdicts

/-!
# A relay and its receiver take turns

The hook dispatches events to a relay while the receiver takes events from the channel or goes away.
`Relay.onTurn` is the step function of the two on one channel, and its runs are all the ways in
which they can take turns. Every event that was buffered is received, still buffered, or was dropped
with the receiver, in this order (`accepted_new`). A relay that dispatches events by a schedule is
such a run (`fed_consumer`, `replies_consumer`).
-/

set_option autoImplicit false

namespace InputTap.Capture

namespace Channel

variable {c : Channel} {e : Event}

/-- A channel from which nothing more can be received than was sent: it holds no more than fits, and
nothing for a receiver that is gone. -/
structure IsSound (c : Channel) : Prop where
  bounded : c.buffered.length ≤ c.capacity
  closed : c.isOpen = false → c.buffered = []

theorem isSound_new (capacity : Nat) : (new capacity).IsSound :=
  ⟨Nat.zero_le _, fun _ => rfl⟩

theorem send_of_closed (gone : c.isOpen = false) : c.send e = (c, .closed) := by
  unfold send
  rw [gone]
  rfl

theorem send_of_room (there : c.isOpen = true) (room : c.buffered.length < c.capacity) :
    c.send e = ({ c with buffered := c.buffered ++ [e] }, .buffered) := by
  unfold send
  rw [there, if_neg (by decide), if_pos room]

theorem send_of_full (there : c.isOpen = true) (full : ¬ c.buffered.length < c.capacity) :
    c.send e = (c, .full) := by
  unfold send
  rw [there, if_neg (by decide), if_neg full]

/-- What becomes of an event that is sent. -/
theorem send_cases (c : Channel) (e : Event) :
    (c.isOpen = true ∧ c.buffered.length < c.capacity ∧
        c.send e = ({ c with buffered := c.buffered ++ [e] }, .buffered)) ∨
      ¬ (c.isOpen = true ∧ c.buffered.length < c.capacity) ∧
        ∃ fate, fate ≠ .buffered ∧ (fate = .closed ↔ c.isOpen = false) ∧ c.send e = (c, fate) := by
  by_cases there : c.isOpen = true
  · by_cases room : c.buffered.length < c.capacity
    · exact .inl ⟨there, room, send_of_room there room⟩
    · refine .inr ⟨fun h => room h.2, .full, Sending.noConfusion, ?_, send_of_full there room⟩
      exact iff_of_false Sending.noConfusion (Bool.not_eq_false _ ▸ there)
  · have gone : c.isOpen = false := Bool.not_eq_true _ ▸ there
    exact .inr ⟨fun h => there h.1, .closed, Sending.noConfusion, iff_of_true rfl gone,
      send_of_closed gone⟩

theorem send_closed_iff (c : Channel) : (c.send e).2 = .closed ↔ c.isOpen = false := by
  obtain ⟨there, -, sent⟩ | ⟨-, fate, -, gone, sent⟩ := c.send_cases e
  · rw [sent, there]
    exact iff_of_false Sending.noConfusion Bool.noConfusion
  · rw [sent]
    exact gone

end Channel

namespace Relay

/-- A turn of the hook or of the receiver. -/
inductive Turn
  | dispatch (e : Event)
  | receiver (step : ReceiverStep)
deriving DecidableEq, Inhabited

/-- The event that a turn dispatches. -/
def Turn.event? : Turn → Option Event
  | .dispatch e => some e
  | .receiver _ => none

/-- Takes a turn. An event is answered at once, whatever becomes of it. -/
def onTurn (r : Relay) (c : Channel) : Turn → Channel × Option (Event × Answer)
  | .dispatch e =>
    let answered := r.answer e { channel := c }
    (answered.2.channel, some (e, answered.1))
  | .receiver step => (c.step step, none)

/-- One turn among others. -/
abbrev TurnStep := Run.Step Channel Turn (Option (Event × Answer))

/-- The event that a turn put into the buffer. -/
def accepted (st : TurnStep) : List Event :=
  match st.input with
  | .dispatch e => if (st.before.send e).2 = .buffered then [e] else []
  | .receiver _ => []

/-- The events that were still buffered when a turn dropped the receiver. -/
def dropped (st : TurnStep) : List Event :=
  match st.input with
  | .receiver .close => st.before.buffered
  | _ => []

variable (r : Relay) {c : Channel}

theorem isSound_onTurn (h : c.IsSound) (t : Turn) :
    (r.onTurn c t).1.IsSound ∧ (r.onTurn c t).1.capacity = c.capacity := by
  cases t with
  | dispatch e =>
    show (c.send e).1.IsSound ∧ (c.send e).1.capacity = c.capacity
    obtain ⟨there, room, sent⟩ | ⟨-, fate, -, -, sent⟩ := c.send_cases e
    · rw [sent]
      refine ⟨⟨?_, fun gone => Bool.noConfusion (there.symm.trans gone)⟩, rfl⟩
      rw [List.length_append]
      exact room
    · rw [sent]
      exact ⟨h, rfl⟩
  | receiver step =>
    cases step with
    | close => exact ⟨⟨Nat.zero_le _, fun _ => rfl⟩, rfl⟩
    | receive =>
      obtain ⟨capacity, _ | ⟨e, rest⟩, received, isOpen⟩ := c
      · exact ⟨h, rfl⟩
      · refine ⟨⟨Nat.le_of_succ_le h.bounded, fun gone => ?_⟩, rfl⟩
        exact absurd (h.closed gone) (List.cons_ne_nil e rest)

/-- The channel stays sound, and as wide as it is. -/
theorem isSound_final (h : c.IsSound) (turns : List Turn) :
    (Run.final r.onTurn c turns).IsSound ∧ (Run.final r.onTurn c turns).capacity = c.capacity :=
  Run.final_of_invariant (fun d : Channel => d.IsSound ∧ d.capacity = c.capacity)
    (fun _ t hd => ⟨(r.isSound_onTurn hd.1 t).1, (r.isSound_onTurn hd.1 t).2.trans hd.2⟩)
    ⟨h, rfl⟩ turns

/-! ## What becomes of the events -/

/-- Once the receiver is gone nothing changes any more. -/
theorem onTurn_closed (h : c.IsSound) (gone : c.isOpen = false) (t : Turn) :
    (r.onTurn c t).1 = c ∧ accepted (Run.stepOf r.onTurn c t) = [] ∧
      dropped (Run.stepOf r.onTurn c t) = [] := by
  have empty := h.closed gone
  cases t with
  | dispatch e =>
    have sent : c.send e = (c, .closed) := c.send_of_closed gone
    refine ⟨congrArg Prod.fst sent, ?_, rfl⟩
    show (if (c.send e).2 = .buffered then [e] else []) = []
    rw [sent]
    rfl
  | receiver step =>
    obtain ⟨capacity, buffered, received, isOpen⟩ := c
    obtain rfl : buffered = [] := empty
    obtain rfl : isOpen = false := gone
    cases step <;> exact ⟨rfl, rfl, rfl⟩

theorem closed_final (h : c.IsSound) (gone : c.isOpen = false) (turns : List Turn) :
    Run.final r.onTurn c turns = c ∧ (Run.steps r.onTurn c turns).flatMap accepted = [] ∧
      (Run.steps r.onTurn c turns).flatMap dropped = [] := by
  induction turns with
  | nil => exact ⟨rfl, rfl, rfl⟩
  | cons t turns ih =>
    obtain ⟨same, unaccepted, quiet⟩ := r.onTurn_closed h gone t
    rw [Run.final_cons, Run.steps_cons, List.flatMap_cons, List.flatMap_cons, unaccepted, quiet, same]
    exact ih

/-- An event is buffered exactly if the receiver is there and the buffer is not full. -/
theorem accepted_dispatch (e : Event) :
    accepted (Run.stepOf r.onTurn c (.dispatch e)) =
      if c.isOpen = true ∧ c.buffered.length < c.capacity then [e] else [] := by
  show (if (c.send e).2 = .buffered then [e] else []) = _
  obtain ⟨there, room, sent⟩ | ⟨refused, fate, other, -, sent⟩ := c.send_cases e
  · rw [sent, if_pos rfl, if_pos ⟨there, room⟩]
  · rw [sent, if_neg other, if_neg refused]

/-- Every event that was buffered is received, or dropped with the receiver, or still buffered, and
in this order these are the events as they were sent. -/
theorem accepted_append (h : c.IsSound) (turns : List Turn) :
    c.received ++ c.buffered ++ (Run.steps r.onTurn c turns).flatMap accepted =
      (Run.final r.onTurn c turns).received ++ (Run.steps r.onTurn c turns).flatMap dropped ++
        (Run.final r.onTurn c turns).buffered := by
  induction turns generalizing c with
  | nil => simp
  | cons t turns ih =>
    have later := ih (r.isSound_onTurn h t).1
    rw [Run.final_cons, Run.steps_cons, List.flatMap_cons, List.flatMap_cons]
    cases t with
    | dispatch e =>
      rw [show dropped (Run.stepOf r.onTurn c (.dispatch e)) = [] from rfl, List.nil_append,
        ← later, r.accepted_dispatch]
      show _ = (c.send e).1.received ++ (c.send e).1.buffered ++ _
      obtain ⟨there, room, sent⟩ | ⟨refused, fate, -, -, sent⟩ := c.send_cases e
      · rw [if_pos ⟨there, room⟩, sent]
        simp only [List.append_assoc]
      · rw [if_neg refused, sent]
        rfl
    | receiver step =>
      cases step with
      | receive =>
        obtain ⟨capacity, _ | ⟨e, rest⟩, received, isOpen⟩ := c
        · exact later
        · refine Eq.trans ?_ later
          show received ++ e :: rest ++ _ = received ++ [e] ++ rest ++ _
          rw [List.append_assoc received [e] rest]
          rfl
      | close =>
        -- What is buffered now is dropped, and nothing is buffered again.
        obtain ⟨same, unaccepted, quiet⟩ := r.closed_final (r.isSound_onTurn h (.receiver .close)).1 rfl
          turns
        rw [unaccepted, quiet, same]
        show c.received ++ c.buffered ++ [] = c.received ++ (c.buffered ++ []) ++ []
        simp only [List.append_nil]

theorem accepted_sublist (c : Channel) (turns : List Turn) :
    ((Run.steps r.onTurn c turns).flatMap accepted).Sublist (turns.filterMap Turn.event?) := by
  induction turns generalizing c with
  | nil => exact .slnil
  | cons t turns ih =>
    rw [Run.steps_cons, List.flatMap_cons]
    cases t with
    | receiver step => exact ih _
    | dispatch e =>
      rw [r.accepted_dispatch]
      split
      · exact (ih _).cons_cons e
      · exact (ih _).cons e

/-! ## Answers -/

/-- The event tells that the stop key was pressed. -/
def PressesStopKey (e : Event) : Prop := ∃ d, e.kind = .key .pressed d ∧ r.stopKey = some d.code

theorem isStopPress_iff (e : Event) : r.isStopPress e = true ↔ r.PressesStopKey e := by
  obtain ⟨time, mask, kind⟩ := e
  unfold isStopPress PressesStopKey Event.isPressOf
  rw [Option.any_eq_true]
  cases kind with
  | key action d => cases action <;> simp
  | _ => simp

instance (e : Event) : Decidable (r.PressesStopKey e) :=
  decidable_of_iff _ (r.isStopPress_iff e)

/-- A relay asks for a stop for a press of the stop key, and for a receiver that is gone. -/
theorem stops_answer (c : Channel) (e : Event) :
    (r.answer e { channel := c }).1.stops =
      (if r.PressesStopKey e then 1 else 0) + if c.isOpen then 0 else 1 := by
  have pressed : r.isStopPress e = decide (r.PressesStopKey e) := by
    rw [Bool.eq_iff_iff, r.isStopPress_iff, decide_eq_true_iff]
  have gone : ((c.send e).2 == .closed) = !c.isOpen := by
    rw [Bool.eq_iff_iff, beq_iff_eq, c.send_closed_iff, Bool.not_eq_true']
  show (r.isStopPress e).toNat + ((c.send e).2 == .closed).toNat = _
  rw [pressed, gone]
  by_cases h : r.PressesStopKey e <;> cases c.isOpen <;> simp [h]

theorem stops_answer_pos_iff (c : Channel) (e : Event) :
    0 < (r.answer e { channel := c }).1.stops ↔ r.PressesStopKey e ∨ c.isOpen = false := by
  rw [r.stops_answer]
  by_cases pressed : r.PressesStopKey e <;> cases c.isOpen <;> simp [pressed]

/-- The turns of a hook that dispatches events while the receiver takes the steps of a schedule
before each of them. -/
def turnsOf : List (List ReceiverStep) → List Event → List Turn
  | _, [] => []
  | schedule, e :: es =>
    (schedule.headD []).map .receiver ++ .dispatch e :: turnsOf schedule.tail es

theorem steps_receiver (c : Channel) (ss : List ReceiverStep) :
    Run.final r.onTurn c (ss.map .receiver) = c.steps ss ∧
      (Run.steps r.onTurn c (ss.map .receiver)).filterMap Run.Step.output = [] := by
  induction ss generalizing c with
  | nil => exact ⟨rfl, rfl⟩
  | cons s ss ih => exact ih (c.step s)

/-- A relay with a schedule has dispatched events in these turns. -/
theorem fed_consumer (c : Channel) (schedule : List (List ReceiverStep)) (es : List Event) :
    (r.consumer c schedule).fed es =
      r.consumer (Run.final r.onTurn c (turnsOf schedule es)) (schedule.drop es.length) := by
  induction es generalizing c schedule with
  | nil => rfl
  | cons e es ih =>
    rw [turnsOf, Run.final_append, (r.steps_receiver c _).1, Run.final_cons, List.length_cons,
      ← List.drop_tail, ← ih]
    rfl

/-- It has given the answers of these turns. -/
theorem replies_consumer (c : Channel) (schedule : List (List ReceiverStep)) (es : List Event) :
    (r.consumer c schedule).replies es =
      (Run.steps r.onTurn c (turnsOf schedule es)).filterMap Run.Step.output := by
  induction es generalizing c schedule with
  | nil => rfl
  | cons e es ih =>
    rw [turnsOf, Run.steps_append, List.filterMap_append, (r.steps_receiver c _).2,
      (r.steps_receiver c _).1, Run.steps_cons, List.nil_append]
    show _ :: Consumer.replies (r.consumer _ schedule.tail) es = _ :: _
    rw [ih]
    rfl

end Relay

end InputTap.Capture
