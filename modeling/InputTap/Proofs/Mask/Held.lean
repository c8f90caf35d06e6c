import InputTap.Proofs.Mask.Bits
import InputTap.Proofs.Run

/-!
# Histories of held keys

`HeldKeys` can be told of bits that go down or up, several at once, of presses, and to read the live
keys. `HeldKeys.Call.turns?` is what a call says of a held bit and `HeldKeys.Call.reads?` what it
says of a lock; a press also switches the locks that it finds up (`switching`). After any history
each bit stands as the calls have left it (`follows_history`).
-/

set_option autoImplicit false

namespace InputTap.HeldKeys

open Mask (isLock keyOf lockBits)

/-- One thing that the held keys are told. -/
inductive Call
  | set (bits : Mask)
  | press (bits : Mask)
  | unset (bits : Mask)
  | reread (system : SystemState)

/-- Carries out a call. Only a reading of the live keys has an answer, the mask that it finds. -/
def onCall (h : HeldKeys) : Call → HeldKeys × Option Mask
  | .set bits => (h.set bits, none)
  | .press bits => (h.press bits, none)
  | .unset bits => (h.unset bits, none)
  | .reread system => (ofSystem system, some (ofSystem system).held)

/-- The held keys after a history of calls. -/
def after (calls : List Call) : HeldKeys := Run.final onCall {} calls

theorem after_append (calls later : List Call) :
    after (calls ++ later) = Run.final onCall (after calls) later :=
  Run.final_append _ calls later

/-- One call in the life of the held keys. -/
abbrev CallStep : Type := Run.Step HeldKeys Call (Option Mask)

namespace Call

/-- What a call says of a held bit: that it is down, that it is up, or nothing. -/
def turns? (i : Fin 16) : Call → Option Bool
  | .set bits | .press bits => if bits.has i = true then some true else none
  | .unset bits => if bits.has i = true then some false else none
  | .reread system => some (system.isDown (keyOf i))

/-- What a reading of the live keys says of a lock; a bit that is no lock's is never on. -/
def reads? (i : Fin 16) : Call → Option Bool
  | .reread system => some (isLock i && system.isToggled (keyOf i))
  | _ => none

/-- The call is a press of a bit, perhaps among others. -/
def presses (i : Fin 16) : Call → Bool
  | .press bits => bits.has i
  | _ => false

end Call

/-- The call is a press of a bit that finds it up. -/
def switching (i : Fin 16) (st : CallStep) : Bool :=
  st.input.presses i && !st.before.held.has i

section Reading

variable (system : SystemState) (i : Fin 16)

theorem has_held_ofSystem : (ofSystem system).held.has i = system.isDown (keyOf i) :=
  Mask.has_collect_trackedKeys system.isDown i

theorem has_toggled_ofSystem :
    (ofSystem system).toggled.has i = (isLock i && system.isToggled (keyOf i)) :=
  Mask.has_collect_lockKeys system.isToggled i

end Reading

section Calls

variable (h : HeldKeys) (c : Call) (i : Fin 16)

/-- A call makes each bit what it says of it, and leaves the others. -/
theorem has_held_onCall : (h.onCall c).1.held.has i = (c.turns? i).getD (h.held.has i) := by
  cases c with
  | set bits => exact Mask.has_down Bool.decide_eq_true.symm
  | press bits => exact Mask.has_down Bool.decide_eq_true.symm
  | unset bits => exact Mask.has_up Bool.decide_eq_true.symm
  | reread system => exact has_held_ofSystem system i

/-- A call sets a lock that it reads, and turns over a lock that it presses and finds up. -/
theorem has_toggled_onCall :
    (h.onCall c).1.toggled.has i =
      (c.reads? i).getD
        (Bool.xor (h.toggled.has i) (isLock i && switching i (Run.stepOf onCall h c))) := by
  have kept : ∀ up : Bool, h.toggled.has i =
      Bool.xor (h.toggled.has i) (isLock i && (false && up)) := by simp
  cases c with
  | set bits => exact kept _
  | press bits =>
    show (h.toggled ^^^ ((bits &&& Mask.locks) \ h.held)).has i =
      Bool.xor (h.toggled.has i) (isLock i && (bits.has i && !h.held.has i))
    rw [Mask.has_symmDiff, Mask.has_diff, Mask.has_inter, Mask.has_locks,
      Bool.and_comm (bits.has i), Bool.and_assoc]
  | unset bits => exact kept _
  | reread system => exact has_toggled_ofSystem system i

end Calls

theorem has_held_after (calls : List Call) (i : Fin 16) :
    (after calls).held.has i = (calls.filterMap (Call.turns? i)).getLast?.getD false := by
  have start : ({} : HeldKeys).held.has i = false := Mask.has_empty i
  rw [← start]
  exact Run.view_final_of_input (fun h : HeldKeys => h.held.has i) (Call.turns? i)
    (fun h c => h.has_held_onCall c i) {} calls

theorem has_toggled_after (calls : List Call) {i : Fin 16} (lock : isLock i = true) :
    (after calls).toggled.has i =
      Run.switchAt (fun st => st.input.reads? i) (switching i) false (Run.steps onCall {} calls) := by
  have start : ({} : HeldKeys).toggled.has i = false := Mask.has_empty i
  rw [← start]
  refine Run.switch_final (fun st => st.input.reads? i) (switching i)
    (fun h : HeldKeys => h.toggled.has i) (fun h c => ?_) {} calls
  have step := h.has_toggled_onCall c i
  rw [lock, Bool.true_and] at step
  exact step

/-- Nothing but a lock is ever on. -/
theorem not_has_toggled_after (calls : List Call) {i : Fin 16} (other : isLock i = false) :
    (after calls).toggled.has i = false := by
  refine Run.final_of_invariant (fun h : HeldKeys => h.toggled.has i = false) ?_
    (Mask.has_empty i) calls
  intro h c off
  rw [has_toggled_onCall, off, other]
  cases c with
  | reread system =>
    show (isLock i && _) = false
    rw [other, Bool.false_and]
  | set bits => rfl
  | press bits => rfl
  | unset bits => rfl

/-- The live keys determine what is read from them, and of them only those that belong to a bit. -/
theorem ofSystem_congr {a b : SystemState} (down : ∀ i, a.isDown (keyOf i) = b.isDown (keyOf i))
    (on : ∀ i ∈ lockBits, a.isToggled (keyOf i) = b.isToggled (keyOf i)) :
    ofSystem a = ofSystem b := by
  have held : (ofSystem a).held = (ofSystem b).held := by
    refine Mask.ext_bits fun i => ?_
    rw [has_held_ofSystem, has_held_ofSystem, down]
  have toggled : (ofSystem a).toggled = (ofSystem b).toggled := by
    refine Mask.ext_bits fun i => ?_
    rw [has_toggled_ofSystem, has_toggled_ofSystem]
    cases lock : isLock i with
    | true => rw [on i (Mask.isLock_iff.1 lock)]
    | false => rfl
  rw [HeldKeys.mk.injEq]
  exact ⟨held, toggled⟩

/-- Bits that go down and up again are gone, whether they were held before or not. -/
theorem held_unset_set (h : HeldKeys) (bits : Mask) :
    ((h.set bits).unset bits).held = h.held \ bits := by
  refine Mask.ext_has fun i => ?_
  show ((h.held ||| bits) \ bits).has i = _
  rw [Mask.has_diff, Mask.has_union, Mask.has_diff]
  cases h.held.has i <;> cases bits.has i <;> rfl

/-- The laws of the held keys, whatever they were told. -/
structure FollowsHistory (calls : List Call) : Prop where
  held_iff : ∀ i : Fin 16, (after calls).held.has i = true ↔
    (calls.filterMap (Call.turns? i)).getLast? = some true
  /-- A lock is on as it was read last, turned over once for each later press that found it up. -/
  lock : ∀ i ∈ lockBits, (after calls).toggled.has i =
    Run.switchAt (fun st => st.input.reads? i) (switching i) false (Run.steps onCall {} calls)
  other : ∀ i ∉ lockBits, (after calls).toggled.has i = false
  typing_lock : ∀ i ∈ lockBits, (after calls).typingMask.has i = (after calls).toggled.has i
  typing_other : ∀ i ∉ lockBits, (after calls).typingMask.has i = (after calls).held.has i
  /-- A reading forgets what was before it. -/
  reread : ∀ calls' a b, (∀ i, a.isDown (keyOf i) = b.isDown (keyOf i)) →
    (∀ i ∈ lockBits, a.isToggled (keyOf i) = b.isToggled (keyOf i)) →
      after (calls ++ [.reread a]) = after (calls' ++ [.reread b])
  set_unset : ∀ bits : Mask,
    (after (calls ++ [.set bits, .unset bits])).held = (after calls).held \ bits ∧
      ((after (calls ++ [.set bits, .unset bits])).held = (after calls).held ↔
        ∀ i : Fin 16, ¬ ((after calls).held.has i = true ∧ bits.has i = true))

/-- **The held keys follow their history.** Whatever bits they are told of, several at once or not,
a bit is down exactly if the last call that concerned it left it down; a lock is on as the live keys
showed it last, turned over by each later press that found it up; the mask of character look-up has
the locks that are on in place of those that are held; and a reading of the live keys forgets all
that was before it. -/
theorem follows_history (calls : List Call) : FollowsHistory calls := by
  have other : ∀ i ∉ lockBits, (after calls).toggled.has i = false := fun i plain =>
    not_has_toggled_after calls (Bool.eq_false_iff.2 (mt Mask.isLock_iff.1 plain))
  constructor
  case held_iff =>
    intro i
    rw [has_held_after]
    cases (calls.filterMap (Call.turns? i)).getLast? with
    | none => exact ⟨fun h => absurd h Bool.false_ne_true, fun h => absurd h (by decide)⟩
    | some down => exact ⟨congrArg some, Option.some.inj⟩
  case lock =>
    intro i lock
    exact has_toggled_after calls (Mask.isLock_iff.2 lock)
  case other => exact other
  case typing_lock =>
    intro i lock
    rw [has_typingMask, Mask.isLock_iff.2 lock, Bool.not_true, Bool.and_false, Bool.false_or]
  case typing_other =>
    intro i plain
    rw [has_typingMask, Bool.eq_false_iff.2 (mt Mask.isLock_iff.1 plain), other i plain,
      Bool.not_false, Bool.and_true, Bool.or_false]
  case reread =>
    intro calls' a b down on
    have forgets : ∀ (earlier : List Call) (system : SystemState),
        after (earlier ++ [.reread system]) = ofSystem system :=
      fun earlier system => after_append earlier [.reread system]
    rw [forgets, forgets, ofSystem_congr down on]
  case set_unset =>
    intro bits
    have told : (after (calls ++ [.set bits, .unset bits])).held = (after calls).held \ bits := by
      rw [after_append, ← held_unset_set]
      rfl
    exact ⟨told, told ▸ Mask.diff_eq_self_iff⟩

/-- Caps lock is read as on, held on over a repeated press, and switched off by the press that finds
it up, here together with another lock and a key that is no lock. -/
example :
    let live : SystemState := { SystemState.idle with isToggled := fun vk => vk = .capsLock }
    let both := Mask.capsLock ||| Mask.numLock ||| Mask.shiftLeft
    (after [.press .scrollLock, .reread live, .set .capsLock, .press .capsLock, .unset .capsLock,
      .press both]).toggled = .numLock := by decide

end InputTap.HeldKeys
