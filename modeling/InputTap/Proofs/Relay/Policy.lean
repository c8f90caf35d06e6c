import InputTap.Proofs.Normalizer.ModifierKeys
import InputTap.Proofs.Normalizer.Streams
import InputTap.Proofs.Relay.Turns
import InputTap.Proofs.Replay.Course

/-!
# Verdicts by policy

A consumer that decides by a policy decides on each event by itself, and only the leading event of
an input can be withheld. So the verdict on an input is a function of the input
(`ConsumePolicy.onInput`), whatever the session remembers, and a key that is withheld types nothing.
A relay decides by its policy in every state of its channel, which makes its verdicts independent of
the receiver (`verdicts_by_policy`).
-/

set_option autoImplicit false

namespace InputTap

theorem Verdict.eq_of_consume_iff {a b : Verdict} (h : a = .consume ↔ b = .consume) : a = b := by
  cases a <;> cases b <;> simp_all

namespace Capture

variable {σ : Type} {p : ConsumePolicy}

namespace ConsumePolicy

/-- The verdict on an input: a key is withheld if its place is listed, and all else passes. -/
def onInput (p : ConsumePolicy) (layout : Layout) : RawInput → Verdict
  | .keyDown vk extended _ | .keyUp vk extended _ =>
    if layout.place vk extended ∈ p.keys then .consume else .pass
  | _ => .pass

/-- A key has the same verdict down and up, at any time. -/
theorem onInput_ofKey (layout : Layout) (down : Bool) (vk : VirtualKey) (extended : Bool)
    (time : Millis) :
    p.onInput layout (.ofKey down vk extended time) =
      if layout.place vk extended ∈ p.keys then .consume else .pass := by
  cases down <;> rfl

theorem onInput_eq_consume_iff {layout : Layout} {raw : RawInput} :
    p.onInput layout raw = .consume ↔
      ∃ down vk extended time, raw = .ofKey down vk extended time ∧
        layout.place vk extended ∈ p.keys := by
  constructor
  · intro consumed
    cases raw with
    | keyDown vk extended time =>
      exact ⟨true, vk, extended, time, rfl, by simpa [onInput] using consumed⟩
    | keyUp vk extended time =>
      exact ⟨false, vk, extended, time, rfl, by simpa [onInput] using consumed⟩
    | _ => cases consumed
  · rintro ⟨down, vk, extended, time, rfl, listed⟩
    rw [onInput_ofKey, if_pos listed]

theorem onInput_of_isPointer {layout : Layout} {raw : RawInput} (pointer : raw.isPointer = true) :
    p.onInput layout raw = .pass := by
  cases raw with
  | keyDown vk extended time => cases pointer
  | keyUp vk extended time => cases pointer
  | _ => rfl

/-- Neither characters nor clicks are withheld. -/
theorem verdict_of_follower {e : Event} (h : e.type = .key .typed ∨ e.type = .mouse .clicked) :
    p.verdict e = .pass := by
  obtain ⟨time, mask, kind⟩ := e
  cases kind with
  | key action d =>
    cases action with
    | typed => rfl
    | pressed => rcases h with h | h <;> cases h
    | released => rcases h with h | h <;> cases h
  | _ => rfl

end ConsumePolicy

/-- The policy decides on an input as it does on its leading event. -/
theorem Tracking.verdict_lead (t : Tracking) (w : Surroundings) (raw : RawInput) :
    (t.step w raw).2.lead.elim .pass p.verdict = p.onInput w.layout raw := by
  cases raw with
  | motion q time =>
    show (t.motion w q time).2.lead.elim .pass p.verdict = .pass
    cases moved : t.clicks.motion? (w.stamp time) q w.threshold with
    | none =>
      rw [motion_of_none moved]
      rfl
    | some clicks =>
      obtain ⟨data, h⟩ := motion_of_some moved
      rw [h]
      rfl
  | keyDown vk extended time => rfl
  | keyUp vk extended time => rfl
  | buttonDown b q time => rfl
  | buttonUp b q time => rfl
  | wheel axis delta q time => rfl
  | unrecognized message time => rfl

/-- The consumer decides by a policy, whatever its state. -/
def Consumer.Follows (c : Consumer σ) (p : ConsumePolicy) : Prop :=
  ∀ e s, (c.answer e s).1.verdict = p.verdict e

namespace Consumer.Follows

variable {c : Consumer σ}

theorem fed (h : c.Follows p) (es : List Event) : (c.fed es).Follows p := h

theorem verdicts (h : c.Follows p) (es : List Event) : c.verdicts es = es.map p.verdict := by
  induction es generalizing c with
  | nil => rfl
  | cons e es ih =>
    rw [Consumer.verdicts, ih (h.fed [e]), List.map_cons]
    exact congrArg (· :: _) (h e c.state)

theorem verdictOnLead (h : c.Follows p) (t : Tracking) (w : Surroundings) (raw : RawInput) :
    c.verdictOnLead (t.step w raw).2 = p.onInput w.layout raw := by
  rw [← t.verdict_lead w raw]
  unfold Consumer.verdictOnLead
  cases (t.step w raw).2.lead with
  | none => rfl
  | some e => exact h e c.state

end Consumer.Follows

namespace Normalizer

variable {n : Normalizer σ} {c : Consumer σ}

/-- Under a policy an input is withheld exactly if its leading event is. -/
theorem verdict_onInput_of_follows (hc : n.dispatcher = .register c) (follows : c.Follows p)
    (w : Surroundings) (raw : RawInput) :
    (n.onInput (w, raw)).2.verdict = p.onInput w.layout raw := by
  apply Verdict.eq_of_consume_iff
  rw [trace_onInput, hc, Trace.verdict_eq_consume_iff, Dispatcher.answers_deliver_register,
    follows.verdicts, Dispatcher.events_deliver_register, follows.verdictOnLead,
    ← n.tracking.verdict_lead w raw]
  -- What follows the leading event passes, so that nothing else can make the verdict.
  have passed : ∀ e ∈ (n.tracking.step w raw).2.followers, p.verdict e = .pass := by
    intro e he
    apply ConsumePolicy.verdict_of_follower
    exact (Tracking.type_of_mem_followers he).imp_right And.left
  unfold Delivery.received
  cases (n.tracking.step w raw).2.lead with
  | none => simp
  | some lead =>
    rw [Option.elim_some]
    cases first : p.verdict lead with
    | consume => simp [first]
    | pass =>
      show .consume ∈ (lead :: (n.tracking.step w raw).2.followers).map p.verdict ↔ _
      refine iff_of_false ?_ Verdict.noConfusion
      intro consumed
      obtain ⟨e, he, withheld⟩ := List.mem_map.1 consumed
      rcases List.mem_cons.1 he with rfl | he
      · exact Verdict.noConfusion (first.symm.trans withheld)
      · exact Verdict.noConfusion ((passed e he).symm.trans withheld)

/-- An input that is withheld types nothing. -/
theorem untyped_onInput_of_follows (hc : n.dispatcher = .register c) (follows : c.Follows p)
    {w : Surroundings} {raw : RawInput} (consumed : p.onInput w.layout raw = .consume) :
    ∀ e ∈ (n.onInput (w, raw)).2.events, e.type ≠ .key .typed := by
  intro e received typed
  rw [trace_onInput, hc, Dispatcher.events_deliver_register, follows.verdictOnLead, consumed]
    at received
  have leads : (n.tracking.step w raw).2.lead = some e := by
    unfold Delivery.received at received
    cases lead : (n.tracking.step w raw).2.lead with
    | none =>
      rw [lead] at received
      cases received
    | some first =>
      rw [lead] at received
      rw [List.mem_singleton.1 received]
  have leading := Tracking.type_of_lead leads
  rw [typed] at leading
  exact absurd leading (by decide)

end Normalizer

namespace Session

/-- The steps of calls that are made in the same surroundings have these surroundings. -/
theorem surroundings_of_mem_steps {s : Session σ} {w : Surroundings}
    {calls : List (Surroundings × Call)} (within : ∀ x ∈ calls, x.1 = w) :
    ∀ st ∈ Run.steps onCall s calls, st.input.1 = w := by
  intro st hst
  obtain ⟨pre, x, post, rfl, rfl⟩ := Run.mem_steps_iff.1 hst
  exact within x (List.mem_append_right _ List.mem_cons_self)

/-- At each input that finds the session running, the verdict is that of the policy, and a key that
is withheld types nothing. -/
theorem judged_of_mem_steps {s : Session σ} {c : Consumer σ}
    (hc : s.normalizer.dispatcher = .register c) (follows : c.Follows p)
    (calls : List (Surroundings × Call)) :
    ∀ st ∈ Run.steps onCall s calls, FindsRunning st → ∀ raw, st.input.2 = .handle raw →
      st.output.trace.verdict = p.onInput st.input.1.layout raw ∧
        (p.onInput st.input.1.layout raw = .consume →
          ∀ e ∈ st.output.trace.events, e.type ≠ .key .typed) := by
  refine Run.forall_steps
    (fun s : Session σ => ∃ c, s.normalizer.dispatcher = .register c ∧ c.Follows p) ?_ ?_
    ⟨c, hc, follows⟩ calls
  · rintro s x ⟨c, hc, follows⟩
    exact ⟨_, dispatcher_onCall hc x, follows.fed _⟩
  · rintro s ⟨w, call⟩ ⟨c, hc, follows⟩ running raw handles
    obtain rfl : call = .handle raw := handles
    have now : s.phase = .running := running raw rfl
    have handled := onCall_handle w now raw
    show (s.onCall (w, .handle raw)).2.trace.verdict = _ ∧
      (_ → ∀ e ∈ (s.onCall (w, .handle raw)).2.trace.events, _)
    rw [handled]
    exact ⟨Normalizer.verdict_onInput_of_follows hc follows w raw,
      Normalizer.untyped_onInput_of_follows hc follows⟩

/-- Where all calls are made in the same surroundings and every input finds the session running,
each input is given the verdict of the policy. -/
theorem verdict_of_mem_handled {s : Session σ} {c : Consumer σ} {w : Surroundings}
    (hc : s.normalizer.dispatcher = .register c) (follows : c.Follows p)
    {calls : List (Surroundings × Call)} (within : ∀ x ∈ calls, x.1 = w)
    (running : ∀ st ∈ Run.steps onCall s calls, FindsRunning st) :
    ∀ x ∈ handled (Run.steps onCall s calls), x.2 = p.onInput w.layout x.1 := by
  intro x hx
  obtain ⟨st, hst, call, given⟩ := mem_handled_iff.1 hx
  have judged := judged_of_mem_steps hc follows calls st hst (running st hst) x.1 call
  rw [← given, judged.1, surroundings_of_mem_steps within st hst]

end Session

theorem Signal.surroundings_of_mem_callsIn {armed : Option String} {w : Surroundings}
    {xs : List Signal} : ∀ x ∈ callsIn armed w xs, x.1 = w := by
  intro x hx
  obtain ⟨call, -, rfl⟩ := List.mem_map.1 hx
  rfl

/-- All calls of a run are made in the surroundings of the run. -/
theorem Replay.surroundings_of_mem_lived {r : Replay} {w : Surroundings} {s : Session σ}
    {taken : List Signal} : ∀ x ∈ r.lived w s taken, x.1 = w := by
  intro x hx
  unfold lived at hx
  split at hx
  · cases hx
  · rcases List.mem_append.1 hx with looped | closed
    · rcases List.mem_cons.1 looped with rfl | looped
      · rfl
      · exact Signal.surroundings_of_mem_callsIn x looped
    · rw [Loop.eq_of_mem_closing closed]

namespace Relay

variable (r : Relay)

/-- A relay decides by its policy whatever becomes of its channel. -/
theorem follows_consumer (channel : Channel) (schedule : List (List ReceiverStep)) :
    (r.consumer channel schedule).Follows r.policy := fun _ _ => rfl

/-- What the verdicts of a relay are over a run that took some signals and made some calls. -/
structure Judges (p : Replay) (w : Surroundings) (taken : List Signal)
    (sts : List (Session.CallStep RelayState)) (after : Replay) (trace : Trace) : Prop where
  /-- The signals were taken from the front of the queue and of the stops asked for. -/
  conserved : taken ++ after.queue = p.queue ++ List.replicate (p.granted trace.stops) .stop
  trace : trace = Session.traceOf sts
  /-- One verdict is recorded for each input that was taken, in their order. -/
  inputs : (Session.handled sts).map Prod.fst = taken.filterMap Signal.input?
  verdicts : after.verdicts = p.verdicts ++ (Session.handled sts).map Prod.snd
  consume_iff : ∀ x ∈ Session.handled sts, x.2 = .consume ↔ ∃ down vk extended time,
    x.1 = .ofKey down vk extended time ∧ w.layout.place vk extended ∈ r.policy.keys
  /-- A key is withheld as often as it goes down and up, or never. -/
  same_key : ∀ x ∈ Session.handled sts, ∀ y ∈ Session.handled sts,
    ∀ down down' vk extended time time', x.1 = .ofKey down vk extended time →
      y.1 = .ofKey down' vk extended time' → x.2 = y.2
  pointer_passes : ∀ x ∈ Session.handled sts, x.1.isPointer = true → x.2 = .pass
  listed_untyped : ∀ st ∈ sts, ∀ down vk extended time,
    st.input.2 = .handle (.ofKey down vk extended time) →
      w.layout.place vk extended ∈ r.policy.keys →
        ∀ e ∈ st.output.trace.events, e.type ≠ .key .typed

variable {r} {p : Replay} {w : Surroundings}

/-- The verdicts over a run of any session that a relay listens to. -/
theorem judges_run {s : Session RelayState} {channel : Channel}
    {schedule : List (List ReceiverStep)}
    (hc : s.normalizer.dispatcher = .register (r.consumer channel schedule)) :
    ∃ taken calls, r.Judges p w taken (Run.steps Session.onCall s calls) (p.run w s).replay
      (p.run w s).trace := by
  obtain ⟨taken, course⟩ := p.course_run w s
  have judged := Session.judged_of_mem_steps hc (r.follows_consumer channel schedule)
    (p.lived w s taken)
  have verdict := Session.verdict_of_mem_handled hc (r.follows_consumer channel schedule)
    Replay.surroundings_of_mem_lived course.running
  refine ⟨taken, p.lived w s taken, ?_⟩
  constructor
  case conserved => exact course.conserved
  case trace => exact course.trace
  case inputs => exact course.inputs
  case verdicts => exact course.verdicts
  case consume_iff =>
    intro x hx
    rw [verdict x hx, ConsumePolicy.onInput_eq_consume_iff]
  case same_key =>
    intro x hx y hy down down' vk extended time time' keyX keyY
    rw [verdict x hx, verdict y hy, keyX, keyY, ConsumePolicy.onInput_ofKey,
      ConsumePolicy.onInput_ofKey]
  case pointer_passes =>
    intro x hx pointer
    rw [verdict x hx, ConsumePolicy.onInput_of_isPointer pointer]
  case listed_untyped =>
    intro st hst down vk extended time call listed
    apply (judged st hst (course.running st hst) _ call).2
    rw [Session.surroundings_of_mem_steps Replay.surroundings_of_mem_lived st hst,
      ConsumePolicy.onInput_ofKey, if_pos listed]

/-- **The verdicts of a relay depend on its policy alone.** Whatever the capacity of the channel,
the stop key and the turns that the receiver takes, whether it keeps up, loses events or goes: each
input that a run takes is withheld exactly if it is a key at a listed place, and all else passes. So
a key has one verdict in a run, down and up, nothing of the pointer is ever withheld, and a listed
key types nothing. That holds of a relay on a hook thread and for any session that it is given; and
while a run goes on, for any signals that arrive meanwhile. -/
theorem verdicts_by_policy (r : Relay) (p : Replay) (w : Surroundings) (channel : Channel)
    (schedule : List (List ReceiverStep)) :
    (∀ breaks, let e := r.launch breaks p w channel schedule
      ∃ taken calls, r.Judges p w taken
        (Run.steps Session.onCall (.new (.register (r.consumer channel schedule))) calls)
        e.replay e.trace) ∧
    (∀ s : Session RelayState,
      let given := s.withDispatcher (.register (r.consumer channel schedule))
      ∃ taken calls, r.Judges p w taken (Run.steps Session.onCall given calls)
        (p.run w given).replay (p.run w given).trace) ∧
    ∀ turns, let begun := p.beginning w (.new (.register (r.consumer channel schedule)))
      let sts := Run.steps (Loop.onTurn p w) begun turns
      Session.handled (Loop.life sts) = ((Loop.taken sts).filterMap Signal.input?).map fun raw =>
        (raw, r.policy.onInput w.layout raw) := by
  refine ⟨?_, ?_, ?_⟩
  · intro breaks
    cases breaks with
    | false => exact judges_run (s := .new (.register (r.consumer channel schedule))) rfl
    | true =>
      refine ⟨[], [], ?_⟩
      constructor
      case conserved =>
        show p.queue = p.queue ++ List.replicate (p.granted 0) .stop
        rw [Replay.granted_zero, List.replicate_zero, List.append_nil]
      case trace => rfl
      case inputs => rfl
      case verdicts => exact (List.append_nil _).symm
      case consume_iff => exact List.forall_mem_nil _
      case same_key => exact List.forall_mem_nil _
      case pointer_passes => exact List.forall_mem_nil _
      case listed_untyped => exact List.forall_mem_nil _
  · exact fun s => judges_run (s := s.withDispatcher _) rfl
  · intro turns begun sts
    have told := Loop.told (r := p) (w := w) begun rfl turns
    have listens := Session.dispatcher_onCall
      (s := .new (.register (r.consumer channel schedule))) rfl (w, .start p.startTime)
    have live : begun.IsLive := p.isLive_beginning w rfl
    have running := Loop.findsRunning_life (r := p) (w := w) live turns
    rw [told.life] at running
    have verdict := Session.verdict_of_mem_handled listens (r.follows_consumer channel schedule)
      Signal.surroundings_of_mem_callsIn running
    have inputs : (Session.handled (Run.steps Session.onCall begun.session
        (Signal.callsIn begun.armed w (Loop.taken sts)))).map Prod.fst =
          (Loop.taken sts).filterMap Signal.input? := Signal.handled_callsIn _ w _
    rw [← inputs, told.life, List.map_map]
    have each : ∀ x ∈ Session.handled (Run.steps Session.onCall begun.session
        (Signal.callsIn begun.armed w (Loop.taken sts))),
        (x.1, r.policy.onInput w.layout x.1) = id x := fun x hx => Prod.ext rfl (verdict x hx).symm
    exact ((List.map_congr_left each).trans (List.map_id _)).symm

end Relay

end Capture

end InputTap
