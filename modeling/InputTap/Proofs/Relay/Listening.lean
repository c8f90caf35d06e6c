import InputTap.Capture.Listener
import InputTap.Proofs.Relay.Turns
import InputTap.Proofs.Replay.Alike
import InputTap.Proofs.Replay.Course

/-!
# Listening in the hook and beside it

A listener prints events in the hook, or beside it as the receiver of a relay. To the session the
two answer alike while the receiver is there (`Listener.alike_relay`), so that they run alike. What
the receiver prints is what was dispatched, in its order, as long as the buffer never fills
(`Relay.delivered_receiving`), and then the two print the same (`Listener.listening_agrees`).
-/

set_option autoImplicit false

namespace InputTap.Capture

namespace Channel

/-- A receiver that only receives takes nothing away, stays, and makes room. -/
theorem steps_receive (c : Channel) (n : Nat) :
    (c.steps (List.replicate n .receive)).delivered = c.delivered ∧
      (c.steps (List.replicate n .receive)).isOpen = c.isOpen ∧
      (c.steps (List.replicate n .receive)).capacity = c.capacity ∧
      (c.steps (List.replicate n .receive)).buffered.length ≤ c.buffered.length := by
  induction n generalizing c with
  | zero => exact ⟨rfl, rfl, rfl, Nat.le_refl _⟩
  | succ n ih =>
    have later := ih (c.step .receive)
    rw [List.replicate_succ]
    show (steps (c.step .receive) _).delivered = _ ∧ (steps (c.step .receive) _).isOpen = _ ∧
      (steps (c.step .receive) _).capacity = _ ∧ (steps (c.step .receive) _).buffered.length ≤ _
    obtain ⟨delivered, isOpen, capacity, shorter⟩ := later
    rw [delivered, isOpen, capacity]
    obtain ⟨width, _ | ⟨e, rest⟩, received, there⟩ := c
    · exact ⟨rfl, rfl, rfl, shorter⟩
    · exact ⟨List.append_assoc received [e] rest, rfl, rfl, Nat.le_succ_of_le shorter⟩

theorem isOpen_send (c : Channel) (e : Event) : (c.send e).1.isOpen = c.isOpen := by
  obtain ⟨-, -, sent⟩ | ⟨-, fate, -, -, sent⟩ := c.send_cases e <;> rw [sent]

end Channel

namespace Relay

/-- The schedule of a receiver that receives so many times before each of the next events, and is
never dropped. -/
def receiving (counts : List Nat) : List (List ReceiverStep) :=
  counts.map (List.replicate · .receive)

theorem headD_receiving (counts : List Nat) :
    (receiving counts).headD [] = List.replicate (counts.headD 0) .receive := by
  cases counts <;> rfl

theorem tail_receiving (counts : List Nat) :
    (receiving counts).tail = receiving counts.tail := by
  cases counts <;> rfl

/-- While all events fit into the buffer they reach a receiver that only receives, in their order,
whenever it receives. -/
theorem delivered_receiving (r : Relay) {c : Channel} (there : c.isOpen = true) (counts : List Nat)
    (es : List Event) (room : c.buffered.length + es.length ≤ c.capacity) :
    (Run.final r.onTurn c (turnsOf (receiving counts) es)).delivered = c.delivered ++ es := by
  induction es generalizing c counts with
  | nil => exact (List.append_nil _).symm
  | cons e es ih =>
    obtain ⟨delivered, isOpen, capacity, shorter⟩ := c.steps_receive (counts.headD 0)
    rw [turnsOf, headD_receiving, tail_receiving, Run.final_append, (r.steps_receiver c _).1,
      Run.final_cons]
    generalize c.steps (List.replicate (counts.headD 0) .receive) = d at *
    rw [List.length_cons] at room
    -- The receiver has only made room, so the event is buffered.
    have sent : d.send e = ({ d with buffered := d.buffered ++ [e] }, .buffered) :=
      Channel.send_of_room (isOpen.trans there) (by omega)
    have turn : (r.onTurn d (.dispatch e)).1 = { d with buffered := d.buffered ++ [e] } :=
      congrArg Prod.fst sent
    have fits : (d.buffered ++ [e]).length + es.length ≤ d.capacity := by
      rw [List.length_append, List.length_singleton]
      omega
    rw [turn, ih (c := { d with buffered := d.buffered ++ [e] }) (isOpen.trans there) _ fits,
      ← delivered]
    unfold Channel.delivered
    simp

/-- The channel after a run, by the events that were dispatched. -/
theorem channelAfter_run (r : Relay) (p : Replay) (w : Surroundings) (c : Channel)
    (schedule : List (List ReceiverStep)) :
    channelAfter (r.run p w c schedule) c =
      Run.final r.onTurn c (turnsOf schedule (r.run p w c schedule).trace.events) := by
  obtain ⟨taken, course⟩ := p.course_run w (.new (.register (r.consumer c schedule)))
  have listens : (Session.new (.register (r.consumer c schedule))).normalizer.dispatcher =
      .register (r.consumer c schedule) := rfl
  unfold channelAfter run
  rw [course.session, Session.listening_after listens, ← Session.events_traceOf, ← course.trace,
    r.fed_consumer]
  rfl

end Relay

namespace Listener

variable (l : Listener)

/-- While the receiver is there the relay answers as the listener does in the hook. -/
theorem answer_relay (e : Event) {s : RelayState}
    (there : (s.channel.steps (s.schedule.headD [])).isOpen = true) :
    (l.relay.answer e s).1 = l.answer e := by
  have sent : ((s.channel.steps (s.schedule.headD [])).send e).2 ≠ .closed := by
    rw [Ne, Channel.send_closed_iff, there]
    exact Bool.noConfusion
  have quiet : (((s.channel.steps (s.schedule.headD [])).send e).2 == .closed) = false :=
    beq_false_of_ne sent
  show Answer.mk _ (_ + (_ == Sending.closed).toNat) = _
  rw [quiet]
  rfl

/-- To a session, listening beside the hook is listening in it, as long as the receiver is there. -/
theorem alike_relay {c : Channel} (there : c.isOpen = true) (counts : List Nat) :
    l.consumer.Alike (l.relay.consumer c (Relay.receiving counts)) := by
  intro es
  induction es generalizing c counts with
  | nil => rfl
  | cons e es ih =>
    have stays : (c.steps ((Relay.receiving counts).headD [])).isOpen = true := by
      rw [Relay.headD_receiving, (c.steps_receive _).2.1]
      exact there
    have later := ih ((Channel.isOpen_send _ e).trans stays) counts.tail
    have answered := l.answer_relay e (s := ⟨c, Relay.receiving counts⟩) stays
    rw [← Relay.tail_receiving] at later
    show (e, l.answer e) :: l.consumer.replies es =
      (e, (l.relay.answer e ⟨c, Relay.receiving counts⟩).1) :: Consumer.replies _ es
    rw [answered, later]
    rfl

/-- The sessions of a listener in the hook and of one beside it are alike at the start. -/
theorem alike_new (counts : List Nat) :
    (Session.new (.register l.consumer)).Alike
      (Session.new (.register (l.relay.consumer (.new capacity) (Relay.receiving counts)))) :=
  ⟨rfl, rfl, _, _, rfl, rfl, l.alike_relay rfl counts⟩

/-- What is printed beside the hook are the events that reach the receiver. -/
theorem lines_listenBeside (p : Replay) (w : Surroundings) (schedule : List (List ReceiverStep)) :
    Output.lines (l.listenBeside false p w schedule).output =
      (Relay.channelAfter (l.relay.run p w (.new capacity) schedule) (.new capacity)).delivered.map
        Event.line := by
  show Output.lines (List.map Output.log _ ++ List.map _ _) = _
  rw [Output.lines_append, Output.lines_map_log, List.nil_append]
  unfold Output.lines
  rw [List.filterMap_map]
  exact congrFun List.filterMap_eq_map' _

/-- Listening in the hook waits exactly if its run begins and does not find its end. -/
theorem listenInHook_waits_iff (breaks : Bool) (p : Replay) (w : Surroundings) :
    (l.listenInHook breaks p w).result = none ↔
      breaks = false ∧ p.setupFault = none ∧ ¬ p.Ends w (.new (.register l.consumer)) := by
  have accepted : p.refuses (.new (.register l.consumer)) = false ↔ p.setupFault = none := by
    simp [Replay.refuses, Session.new]
  cases breaks with
  | true => exact iff_of_false (Option.some_ne_none _) fun h => Bool.noConfusion h.1
  | false =>
    show (p.run w _).result.map (Except.mapError RelayFault.hook) = none ↔ _
    rw [Option.map_eq_none_iff, p.waits_iff, accepted]
    exact ⟨fun waits => ⟨rfl, waits⟩, And.right⟩

/-- **Listening in the hook and beside it agree.** For every replay, whatever failures are armed in
it, and however hook and receiver take turns: both leave the same replay, so that the same verdicts
are recorded and the same signals are left, and both end in the same way, or both wait for signals,
which they do exactly if their run begins and finds no end. What is printed in the hook are the
events that were dispatched, in their order, and the same lines in the same order are printed beside
it as long as the events would all fit into the buffer. -/
theorem listening_agrees (breaks : Bool) (p : Replay) (w : Surroundings) (counts : List Nat) :
    let inHook := l.listenInHook breaks p w
    let beside := l.listenBeside breaks p w (Relay.receiving counts)
    let listening := Session.new (.register l.consumer)
    let events := if breaks then [] else (p.run w listening).trace.events
    beside.replay = inHook.replay ∧ beside.result = inHook.result ∧
      (inHook.result = none ↔ breaks = false ∧ p.setupFault = none ∧ ¬ p.Ends w listening) ∧
      Output.lines inHook.output = events.map Event.line ∧
      (events.length ≤ 1024 → Output.lines beside.output = Output.lines inHook.output) := by
  intro inHook beside listening events
  have waits := l.listenInHook_waits_iff breaks p w
  cases breaks with
  | true => exact ⟨rfl, rfl, waits, rfl, fun _ => rfl⟩
  | false =>
    obtain ⟨-, replay, trace, result⟩ := p.run_alike w (l.alike_new counts)
    have printed : Output.lines inHook.output = events.map Event.line :=
      lines_writtenInHook p.stopFault _
    refine ⟨replay.symm, congrArg (Option.map _) result.symm, waits, printed, ?_⟩
    intro few
    have dispatched : (l.relay.run p w (.new capacity) (Relay.receiving counts)).trace.events =
        events := congrArg Trace.events trace.symm
    have reached := l.relay.delivered_receiving (c := .new capacity) rfl counts events
      ((Nat.zero_add _).symm ▸ few)
    have channel := l.relay.channelAfter_run p w (.new capacity) (Relay.receiving counts)
    rw [dispatched] at channel
    rw [printed, lines_listenBeside, channel, reached]
    rfl

/-- A key is withheld before and after a restart, and the stop key lets the run take what is already
queued. The receiver takes nothing at first and then catches up. -/
theorem listening_agrees_until_stop_key :
    let l : Listener := { policy := ⟨[.keyA]⟩, stopKey := .escape }
    let p : Replay :=
      { queue := [.input (.keyDown 0x41 false 1), .restart, .input (.keyUp 0x41 false 2),
          .input (.keyDown VirtualKey.escape false 3), .input (.motion ⟨1, 2⟩ 4)] }
    let beside := l.listenBeside false p {} (Relay.receiving [0, 0, 0, 4])
    let inHook := l.listenInHook false p {}
    (p.run {} (.new (.register l.consumer))).trace.events.length ≤ 1024 ∧
      beside.replay.verdicts = [.consume, .consume, .pass, .pass] ∧ beside.replay.queue = [] ∧
      beside.result = some (.ok ()) ∧ Output.lines beside.output = Output.lines inHook.output := by
  intro l p beside inHook
  have few : (p.run {} (.new (.register l.consumer))).trace.events.length ≤ 1024 := by decide
  obtain ⟨replay, result, -, -, lines⟩ := l.listening_agrees false p {} [0, 0, 0, 4]
  refine ⟨few, ?_, ?_, ?_, lines few⟩
  · exact (congrArg Replay.verdicts replay).trans (by decide)
  · exact (congrArg Replay.queue replay).trans (by decide)
  · exact result.trans (by decide)

end Listener

end InputTap.Capture
