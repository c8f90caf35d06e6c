import InputTap.Proofs.Normalizer.HeldBits

/-!
# The locks that are on

Apart from the held keys, a tracking follows which locks are on. A lock switches at a press of its
key that finds the key up, and at nothing else (`has_toggled_step`), so after a run it has been
turned over by each such press (`toggled_final`). The consumer has no part in that. A press that it
consumes never reaches the desktop, whose own lock stays as it was; the lock that is followed
switches all the same (`lock_switches_iff`), and the two differ after an odd number of such presses.
-/

set_option autoImplicit false

namespace InputTap.Capture

open Mask (isLock keyOf lockBits)

/-- The input is a press of this key, or its repetition while it is held. -/
def RawInput.isDownOf (vk : VirtualKey) : RawInput → Bool
  | .keyDown k _ _ => k == vk
  | _ => false

theorem RawInput.isDownOf_iff {vk : VirtualKey} {raw : RawInput} :
    raw.isDownOf vk = true ↔ ∃ extended time, raw = .keyDown vk extended time := by
  cases raw with
  | keyDown k extended time =>
    constructor
    · intro h
      obtain rfl : k = vk := beq_iff_eq.1 h
      exact ⟨extended, time, rfl⟩
    · rintro ⟨_, _, h⟩
      exact beq_iff_eq.2 (RawInput.keyDown.inj h).1
  | _ => simp [isDownOf]

/-- The bits of locks that a press switches over are its own, as far as they were up. -/
theorem toggled_match_press (h : HeldKeys) (bit? : Option Mask) :
    HeldKeys.toggled (match bit? with | some m => h.press m | none => h) =
      h.toggled ^^^ ((bit?.getD .empty &&& Mask.locks) \ h.held) := by
  cases bit? with
  | some m => rfl
  | none =>
    apply Mask.ext_has
    intro i
    simp

/-- Keys that change without a press leave the locks. -/
theorem toggled_match {h : HeldKeys} (go : Mask → HeldKeys)
    (kept : ∀ m, (go m).toggled = h.toggled) (bit? : Option Mask) :
    HeldKeys.toggled (match bit? with | some m => go m | none => h) = h.toggled := by
  cases bit? with
  | some m => exact kept m
  | none => rfl

namespace Tracking

/-- The input switches the lock of a bit: the lock's key goes down and was up. -/
def switches (t : Tracking) (i : Fin 16) (raw : RawInput) : Bool :=
  isLock i && raw.isDownOf (keyOf i) && !t.keys.held.has i

theorem switches_iff {t : Tracking} {i : Fin 16} {raw : RawInput} :
    t.switches i raw = true ↔
      i ∈ lockBits ∧ (∃ extended time, raw = .keyDown (keyOf i) extended time) ∧
        t.keys.held.has i = false := by
  unfold switches
  rw [Bool.and_eq_true, Bool.and_eq_true, Mask.isLock_iff, RawInput.isDownOf_iff,
    Bool.not_eq_true', and_assoc]

theorem has_toggled_keyDown (t : Tracking) (w : Surroundings) (vk : VirtualKey) (extended : Bool)
    (time : Millis) (i : Fin 16) :
    (t.step w (.keyDown vk extended time)).1.keys.toggled.has i =
      Bool.xor (t.keys.toggled.has i) (t.switches i (.keyDown vk extended time)) := by
  have toggled : (t.step w (.keyDown vk extended time)).1.keys.toggled =
      t.keys.toggled ^^^ (((Mask.ofVirtual? vk).getD .empty &&& Mask.locks) \ t.keys.held) :=
    toggled_match_press t.keys (Mask.ofVirtual? vk)
  rw [toggled, Mask.has_symmDiff, Mask.has_diff, Mask.has_inter, Mask.has_ofVirtual,
    Mask.has_locks]
  unfold switches RawInput.isDownOf
  cases lock : isLock i with
  | true =>
    have turned : decide (Mask.isTurnedBy i vk) = (vk == keyOf i) := by
      rw [beq_eq_decide]
      exact decide_eq_decide.2 (Mask.isTurnedBy_lock_iff (Mask.isLock_iff.1 lock) vk)
    rw [turned, Bool.and_true, Bool.true_and]
  | false => simp

/-- An input turns a lock over if it switches it, and leaves the others. -/
theorem has_toggled_step (t : Tracking) (w : Surroundings) (raw : RawInput) (i : Fin 16) :
    (t.step w raw).1.keys.toggled.has i =
      Bool.xor (t.keys.toggled.has i) (t.switches i raw) := by
  have kept : raw.isDownOf (keyOf i) = false →
      (t.step w raw).1.keys.toggled = t.keys.toggled →
      (t.step w raw).1.keys.toggled.has i =
        Bool.xor (t.keys.toggled.has i) (t.switches i raw) := by
    intro other same
    simp [same, switches, other]
  cases raw with
  | keyDown vk extended time => exact t.has_toggled_keyDown w vk extended time i
  | keyUp vk extended time =>
    exact kept rfl (toggled_match t.keys.unset (fun _ => rfl) (Mask.ofVirtual? vk))
  | buttonDown b p time =>
    exact kept rfl (toggled_match t.keys.set (fun _ => rfl) b.button.mask?)
  | buttonUp b p time =>
    exact kept rfl (toggled_match t.keys.unset (fun _ => rfl) b.button.mask?)
  | motion p time => exact kept rfl (by rw [keys_motion])
  | wheel axis delta p time => exact kept rfl rfl
  | unrecognized message time => exact kept rfl rfl

end Tracking

namespace Normalizer

variable {σ : Type}

/-- The locks that the normalizer takes to be on. -/
def toggled (n : Normalizer σ) : Mask := n.tracking.keys.toggled

/-- One input in the life of a normalizer. -/
abbrev InputStep (σ : Type) := Run.Step (Normalizer σ) (Surroundings × RawInput) Trace

/-- The input of a step switched the lock of a bit. -/
def switching (i : Fin 16) (st : InputStep σ) : Bool :=
  st.before.tracking.switches i st.input.2

theorem toggled_final (n : Normalizer σ) (inputs : List (Surroundings × RawInput)) (i : Fin 16) :
    (Run.final onInput n inputs).toggled.has i =
      Run.switchAt (fun _ => none) (switching i) (n.toggled.has i) (Run.steps onInput n inputs) :=
  Run.switch_final _ _ (fun n : Normalizer σ => n.toggled.has i)
    (fun n x => by exact n.tracking.has_toggled_step x.1 x.2 i) n inputs

/-- The inputs that were withheld from the desktop. -/
def suppressed (sts : List (InputStep σ)) : List (InputStep σ) :=
  sts.filter fun st => st.output.verdict.isConsumed

/-- The inputs that went on to the desktop. -/
def letThrough (sts : List (InputStep σ)) : List (InputStep σ) :=
  sts.filter fun st => !st.output.verdict.isConsumed

/-- The lock as the desktop has it, which only the inputs that reach it switch. -/
def desktopLock (i : Fin 16) (start : Bool) (sts : List (InputStep σ)) : Bool :=
  Run.switchAt (fun _ => none) (switching i) start (letThrough sts)

/-- The lock that is followed is that of the desktop after an even number of suppressed switches. -/
theorem toggled_eq_desktopLock_iff (n : Normalizer σ) (inputs : List (Surroundings × RawInput))
    (i : Fin 16) :
    (Run.final onInput n inputs).toggled.has i =
        desktopLock i (n.toggled.has i) (Run.steps onInput n inputs) ↔
      (suppressed (Run.steps onInput n inputs)).countP (switching i) % 2 = 0 := by
  have counted := List.countP_eq_countP_filter_add (Run.steps onInput n inputs) (switching i)
    fun st => st.output.verdict.isConsumed
  have split : (Run.steps onInput n inputs).countP (switching i) =
      (suppressed (Run.steps onInput n inputs)).countP (switching i) +
        (letThrough (Run.steps onInput n inputs)).countP (switching i) := by
    rw [counted]
    simp [suppressed, letThrough]
  rw [toggled_final, desktopLock, Run.switchAt_of_never_set, Run.switchAt_of_never_set, split,
    Nat.bodd_add, Nat.mod_two_of_bodd]
  cases n.toggled.has i <;>
    cases ((suppressed (Run.steps onInput n inputs)).countP (switching i)).bodd <;>
      cases ((letThrough (Run.steps onInput n inputs)).countP (switching i)).bodd <;> decide

/-- **A lock switches whatever the verdict on its press.** After any history and with any consumer,
an input switches a lock exactly if it is a press of the lock's key that finds the key up. So a
consumed input leaves the lock as it was unless it is such a press, and then it does not. In the end
the lock that is followed is that of the desktop, which sees only the inputs that are let through,
exactly if an even number of the presses that switch it were consumed. -/
theorem lock_switches_iff (t : Tracking) (c : Consumer σ) (inputs : List (Surroundings × RawInput))
    (w : Surroundings) (raw : RawInput) (i : Fin 16) :
    let start : Normalizer σ := { tracking := t, dispatcher := .register c }
    let before := Run.final onInput start inputs
    let after := (before.onInput (w, raw)).1
    let verdict := (before.onInput (w, raw)).2.verdict
    let switch := i ∈ lockBits ∧ (∃ extended time, raw = .keyDown (keyOf i) extended time) ∧
      before.held.has i = false
    (after.toggled.has i ≠ before.toggled.has i ↔ switch) ∧
      ((verdict = .consume → after.toggled.has i = before.toggled.has i) ↔
        ¬ (switch ∧ verdict = .consume)) ∧
      (before.toggled.has i = desktopLock i (t.keys.toggled.has i) (Run.steps onInput start inputs) ↔
        (suppressed (Run.steps onInput start inputs)).countP (switching i) % 2 = 0) := by
  intro start before after verdict switch
  have changed : after.toggled.has i ≠ before.toggled.has i ↔ switch := by
    have step : after.toggled.has i =
        Bool.xor (before.toggled.has i) (before.tracking.switches i raw) :=
      before.tracking.has_toggled_step w raw i
    have own : before.tracking.switches i raw = true ↔ switch := Tracking.switches_iff
    rw [step, ← own]
    cases before.toggled.has i <;> cases before.tracking.switches i raw <;> decide
  refine ⟨changed, ?_, toggled_eq_desktopLock_iff start inputs i⟩
  constructor
  · rintro law ⟨switched, consumed⟩
    exact changed.2 switched (law consumed)
  · intro exempt consumed
    by_contra differs
    exact exempt ⟨changed.1 differs, consumed⟩

/-- A consumer that wants the caps lock key for itself consumes its press, and the lock is taken to
be on. -/
theorem caps_lock_switched_by_suppressed_press :
    let c : Consumer Unit :=
      { answer := fun e s => ({ verdict := if e.isPressOf .capsLock then .consume else .pass }, s)
        state := () }
    let start : Normalizer Unit := { dispatcher := .register c }
    let r := start.onInput ({}, .keyDown VirtualKey.capsLock false 1)
    r.2.verdict = .consume ∧ r.1.toggled.has 14 ≠ start.toggled.has 14 := by
  decide

end Normalizer

end InputTap.Capture
