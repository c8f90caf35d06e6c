import InputTap.Proofs.Normalizer.HeldBits
import InputTap.Proofs.Session.Received

/-!
# The held mask of a session

`concern` is what a call says of a bit: a handled input turns it, and a start or the end of a
restart reads it from the live keys. Every call makes the bit what it says, if it says anything
(`has_onCall`), so at the end of a run the bit is what the last call that concerned it said.
-/

set_option autoImplicit false

namespace InputTap.Capture.Session

open Mask (keyOf)

variable {σ : Type}

/-- What a call says of a bit: that it is down, that it is up, or nothing. -/
def concern (i : Fin 16) (st : CallStep σ) : Option Bool :=
  match st.before.phase, st.input with
  | .idle, (w, .start _) | .restarting, (w, .finishRestart) => some (w.system.isDown (keyOf i))
  | .running, (_, .handle raw) => raw.turns? i
  | _, _ => none

theorem concern_of_not_accepts {s : Session σ} {x : Surroundings × Call}
    (h : accepts s.phase x.2 = false) (i : Fin 16) :
    concern i (Run.stepOf onCall s x) = none := by
  obtain ⟨phase, n⟩ := s
  obtain ⟨w, call⟩ := x
  cases call <;> cases phase <;> cases h <;> rfl

theorem concern_start {s : Session σ} (h : s.phase = .idle) (w : Surroundings) (time : Millis)
    (i : Fin 16) :
    concern i (Run.stepOf onCall s (w, .start time)) = some (w.system.isDown (keyOf i)) := by
  obtain ⟨phase, n⟩ := s
  subst h
  rfl

theorem concern_handle {s : Session σ} (h : s.phase = .running) (w : Surroundings) (raw : RawInput)
    (i : Fin 16) : concern i (Run.stepOf onCall s (w, .handle raw)) = raw.turns? i := by
  obtain ⟨phase, n⟩ := s
  subst h
  rfl

theorem concern_finishRestart {s : Session σ} (h : s.phase = .restarting) (w : Surroundings)
    (i : Fin 16) :
    concern i (Run.stepOf onCall s (w, .finishRestart)) = some (w.system.isDown (keyOf i)) := by
  obtain ⟨phase, n⟩ := s
  subst h
  rfl

theorem concern_beginRestart (s : Session σ) (w : Surroundings) (i : Fin 16) :
    concern i (Run.stepOf onCall s (w, .beginRestart)) = none := by
  obtain ⟨phase, n⟩ := s
  cases phase <;> rfl

theorem concern_stop (s : Session σ) (w : Surroundings) (time : Millis) (i : Fin 16) :
    concern i (Run.stepOf onCall s (w, .stop time)) = none := by
  obtain ⟨phase, n⟩ := s
  cases phase <;> rfl

theorem has_reread (n : Normalizer σ) (system : SystemState) (i : Fin 16) :
    (n.reread system).held.has i = system.isDown (keyOf i) :=
  Mask.has_collect_trackedKeys system.isDown i

/-- A call makes each bit what it says of it, and leaves the others. -/
theorem has_onCall (s : Session σ) (x : Surroundings × Call) (i : Fin 16) :
    (s.onCall x).1.held.has i = (concern i (Run.stepOf onCall s x)).getD (s.held.has i) := by
  by_cases accepted : accepts s.phase x.2 = true
  · obtain ⟨w, call⟩ := x
    cases call with
    | start time =>
      rw [concern_start (beq_iff_eq.1 accepted), onCall_start w (beq_iff_eq.1 accepted)]
      exact has_reread s.normalizer w.system i
    | handle raw =>
      rw [concern_handle (beq_iff_eq.1 accepted), onCall_handle w (beq_iff_eq.1 accepted)]
      exact s.normalizer.tracking.has_step w raw i
    | beginRestart =>
      rw [concern_beginRestart, onCall_beginRestart w (beq_iff_eq.1 accepted)]
      rfl
    | finishRestart =>
      obtain ⟨ns, h⟩ := onCall_finishRestart w (beq_iff_eq.1 accepted)
      rw [concern_finishRestart (beq_iff_eq.1 accepted), h]
      exact has_reread s.normalizer w.system i
    | stop time =>
      rw [concern_stop]
      by_cases idle : s.phase = .idle
      · rw [onCall_stop_idle w idle]
        rfl
      · rw [onCall_stop w (isActive_of_stop accepted idle)]
        rfl
  · have ignored : accepts s.phase x.2 = false := Bool.not_eq_true _ ▸ accepted
    rw [concern_of_not_accepts ignored, (onCall_of_not_accepts ignored).1]
    rfl

/-- Neutral input, and any input outside running, leaves the held mask as it is. -/
theorem held_onCall_handle {s : Session σ} {raw : RawInput}
    (h : raw.isNeutral ∨ s.phase ≠ .running) (w : Surroundings) :
    (s.onCall (w, .handle raw)).1.held = s.held := by
  by_cases running : s.phase = .running
  · refine Mask.ext_bits fun i => ?_
    rw [has_onCall, concern_handle running,
      RawInput.turns_of_isNeutral (h.resolve_right (absurd running)) i, Option.getD_none]
  · have ignored : accepts s.phase (.handle raw) = false := beq_eq_false_iff_ne.2 running
    rw [(onCall_of_not_accepts (c := (w, .handle raw)) ignored).1]

/-- The events of an input carry the mask that it leaves. -/
theorem mask_of_mem_events {s : Session σ} {w : Surroundings} {raw : RawInput} {e : Event}
    (h : e ∈ (s.onCall (w, .handle raw)).2.trace.events) :
    s.phase = .running ∧ e.mask = (s.onCall (w, .handle raw)).1.held := by
  by_cases running : s.phase = .running
  · rw [onCall_handle w running] at h ⊢
    exact ⟨running, (Normalizer.stamped_onInput h).mask⟩
  · have ignored : accepts s.phase (.handle raw) = false := beq_eq_false_iff_ne.2 running
    rw [(onCall_of_not_accepts (c := (w, .handle raw)) ignored).2.1] at h
    cases h

/-- The laws of the held mask, whoever listens and whatever the calls. -/
structure HeldMask (d : Dispatcher σ) (calls : List (Surroundings × Call)) : Prop where
  bit_iff : ∀ i : Fin 16, (Run.final onCall (new d) calls).held.has i = true ↔
    ((Run.steps onCall (new d) calls).filterMap (concern i)).getLast? = some true
  /-- Neutral input, and any input outside running, turns nothing. -/
  unturned : ∀ st ∈ Run.steps onCall (new d) calls, ∀ raw, st.input.2 = .handle raw →
    raw.isNeutral ∨ st.before.phase ≠ .running → st.after.held = st.before.held
  stamped : ∀ st ∈ Run.steps onCall (new d) calls, ∀ raw, st.input.2 = .handle raw →
    ∀ e ∈ st.output.trace.events, e.mask = st.after.held
  /-- A press shows its own bit and a release does not. -/
  own_bit : ∀ st ∈ Run.steps onCall (new d) calls, ∀ raw, st.input.2 = .handle raw →
    ∀ e ∈ st.output.trace.events, ∀ i down, raw.turns? i = some down → e.mask.has i = down

/-- **The mask is the held set.** A bit is set exactly if the last call that concerned it left it
down, and the events of an input show the mask with that input applied. -/
theorem heldMask (d : Dispatcher σ) (calls : List (Surroundings × Call)) : HeldMask d calls := by
  constructor
  case bit_iff =>
    intro i
    have last := Run.view_final (fun s : Session σ => s.held.has i) (concern i)
      (fun s x => has_onCall s x i) (new d) calls
    have start : (new d).held.has i = false := Mask.has_empty i
    rw [last, start]
    cases ((Run.steps onCall (new d) calls).filterMap (concern i)).getLast? with
    | none => exact ⟨fun h => absurd h Bool.false_ne_true, fun h => absurd h (by decide)⟩
    | some down => exact ⟨congrArg some, Option.some.inj⟩
  case unturned =>
    intro st hst raw handled quiet
    obtain ⟨pre, ⟨w, call⟩, post, -, rfl⟩ := Run.mem_steps_iff.1 hst
    obtain rfl : call = .handle raw := handled
    exact held_onCall_handle quiet w
  case stamped =>
    intro st hst raw handled e he
    obtain ⟨pre, ⟨w, call⟩, post, -, rfl⟩ := Run.mem_steps_iff.1 hst
    obtain rfl : call = .handle raw := handled
    exact (mask_of_mem_events he).2
  case own_bit =>
    intro st hst raw handled e he i down turned
    obtain ⟨pre, ⟨w, call⟩, post, -, rfl⟩ := Run.mem_steps_iff.1 hst
    obtain rfl : call = .handle raw := handled
    obtain ⟨running, mask⟩ := mask_of_mem_events he
    have bit := has_onCall (Run.final onCall (new d) pre) (w, .handle raw) i
    rw [concern_handle running, turned] at bit
    rw [mask]
    exact bit

end InputTap.Capture.Session
