import InputTap.Proofs.Normalizer.Streams

/-!
# The turns of one bit along a run

For one bit a history comes to the ways in which its inputs turn it, one after the other (`turns`).
The bit ends as it was turned last (`has_final`), and a lock switches as often as its bit goes down
that was up (`countP_switching`). The turns that go all down and then all up end up, with one
switch unless there are none (`rises_down_up`).
-/

set_option autoImplicit false

namespace InputTap.Capture

open Mask (isLock keyOf lockBits)

/-- How inputs turn a bit, one after the other. -/
def turns (i : Fin 16) (inputs : List (Surroundings × RawInput)) : List Bool :=
  inputs.filterMap fun x => x.2.turns? i

/-- How often a bit goes down that was up. -/
def rises : Bool → List Bool → Nat
  | _, [] => 0
  | held, down :: later => (down && !held).toNat + rises down later

theorem rises_up (held : Bool) (b : Nat) : rises held (List.replicate b false) = 0 := by
  induction b generalizing held with
  | zero => rfl
  | succ b ih =>
    rw [List.replicate_succ, rises, ih]
    simp

/-- While a bit goes down again and again it rises once, unless it was held before. -/
theorem rises_down_up (held : Bool) (a b : Nat) :
    rises held (List.replicate a true ++ List.replicate b false) =
      if held = true ∨ a = 0 then 0 else 1 := by
  induction a generalizing held with
  | zero => simp [rises_up]
  | succ a ih =>
    rw [List.replicate_succ, List.cons_append, rises, ih]
    cases held <;> simp

namespace RawInput

/-- A lock is turned down by the presses of its own key. -/
theorem isDownOf_keyOf {i : Fin 16} (lock : i ∈ lockBits) (raw : RawInput) :
    raw.isDownOf (keyOf i) = decide (raw.turns? i = some true) := by
  have apart : ∀ i ∈ lockBits, i ∉ Mask.buttonBits := by decide
  have unturned : raw.isPointer = true → raw.turns? i = none := fun pointer =>
    turns_of_isPointer pointer (apart i lock)
  cases raw with
  | keyDown vk extended time =>
    show (vk == keyOf i) = decide ((if Mask.isTurnedBy i vk then some true else none) = some true)
    rw [beq_eq_decide]
    apply decide_eq_decide.2
    rw [← Mask.isTurnedBy_lock_iff lock vk]
    by_cases turned : Mask.isTurnedBy i vk <;> simp [turned]
  | keyUp vk extended time =>
    by_cases turned : Mask.isTurnedBy i vk <;> simp [isDownOf, turns?, turned]
  | buttonDown b p time => simp [isDownOf, unturned rfl]
  | buttonUp b p time => simp [isDownOf, unturned rfl]
  | motion p time => rfl
  | wheel axis delta p time => rfl
  | unrecognized message time => rfl

end RawInput

namespace Normalizer

variable {σ : Type} (n : Normalizer σ) (inputs : List (Surroundings × RawInput)) (i : Fin 16)

/-- A bit is as it was turned last. -/
theorem has_final : (Run.final onInput n inputs).held.has i =
    (turns i inputs).getLast?.getD (n.held.has i) :=
  Run.view_final_of_input (fun n : Normalizer σ => n.held.has i) (fun x => x.2.turns? i)
    (fun n x => by exact n.tracking.has_step x.1 x.2 i) n inputs

/-- A lock switches once for each time that its bit goes down and was up. -/
theorem countP_switching (lock : i ∈ lockBits) :
    (Run.steps onInput n inputs).countP (switching i) =
      rises (n.held.has i) (turns i inputs) := by
  induction inputs generalizing n with
  | nil => rfl
  | cons x inputs ih =>
    have moved : (n.onInput x).1.held.has i = (x.2.turns? i).getD (n.held.has i) :=
      n.tracking.has_step x.1 x.2 i
    have switched : switching i (Run.stepOf onInput n x) =
        (decide (x.2.turns? i = some true) && !n.held.has i) := by
      show (isLock i && x.2.isDownOf (keyOf i) && !n.held.has i) = _
      rw [Mask.isLock_iff.2 lock, Bool.true_and, RawInput.isDownOf_keyOf lock]
    rw [Run.steps_cons, List.countP_cons, ih, moved, switched]
    unfold turns
    cases turned : x.2.turns? i with
    | none => simp [turned]
    | some down => 
      simp only [List.filterMap_cons, turned, rises]
      cases down <;> cases n.held.has i <;> simp [Nat.add_comm]

/-- The step turns the lock of a bit over. -/
def turnsOver (i : Fin 16) (st : InputStep σ) : Bool :=
  st.after.toggled.has i != st.before.toggled.has i

/-- A lock is turned over by the inputs that switch it. -/
theorem turnsOver_stepOf (x : Surroundings × RawInput) :
    turnsOver i (Run.stepOf onInput n x) = switching i (Run.stepOf onInput n x) := by
  have step := n.tracking.has_toggled_step x.1 x.2 i
  show ((n.tracking.step x.1 x.2).1.keys.toggled.has i != n.tracking.keys.toggled.has i) =
    n.tracking.switches i x.2
  rw [step]
  cases n.tracking.keys.toggled.has i <;> cases n.tracking.switches i x.2 <;> decide

/-- A lock is turned over once for each time that its bit goes down and was up. -/
theorem countP_turnsOver (lock : i ∈ lockBits) :
    (Run.steps onInput n inputs).countP (turnsOver i) =
      rises (n.held.has i) (turns i inputs) := by
  rw [← countP_switching n inputs i lock]
  apply List.countP_congr
  intro st hst
  obtain ⟨pre, x, post, -, rfl⟩ := Run.mem_steps_iff.1 hst
  rw [turnsOver_stepOf]

/-- A lock is on in the end if it was on before and was turned over an even number of times, or off
and an odd number of times. -/
theorem toggled_final_of_lock (lock : i ∈ lockBits) :
    (Run.final onInput n inputs).toggled.has i =
      Bool.xor (n.toggled.has i) (rises (n.held.has i) (turns i inputs)).bodd := by
  rw [toggled_final, Run.switchAt_of_never_set, countP_switching n inputs i lock]

end Normalizer

end InputTap.Capture
