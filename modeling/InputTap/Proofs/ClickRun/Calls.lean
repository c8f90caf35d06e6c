import InputTap.Pointer.ClickRun
import InputTap.Proofs.Run

/-!
# Calls of a click run

A `ClickCall` is one thing that a click run is told: a press or a release of a button, pointer
motion, or a wheel notch. `ClickRun.onCall` is the step function whose runs are the histories of a
click run, and its output is the count that a call reports. `ClickCall.Ordered` says of a history
that its clock never runs backwards.
-/

set_option autoImplicit false

namespace InputTap

/-- One thing that a click run is told. -/
inductive ClickCall
  | press (button : Button) (time : Millis) (point : Point)
  | release (button : Button) (time : Millis) (point : Point)
  | motion (time : Millis) (point : Point)
  | wheel
deriving DecidableEq, Inhabited

namespace ClickCall

/-- The time of a call; a wheel notch has none. -/
def time? : ClickCall → Option Millis
  | .press _ t _ | .release _ t _ | .motion t _ => some t
  | .wheel => none

/-- The button and the time of a call that is a press. -/
def press? : ClickCall → Option (Button × Millis)
  | .press b t _ => some (b, t)
  | _ => none

/-- The presses of a history, in order. -/
def presses (calls : List ClickCall) : List (Button × Millis) := calls.filterMap press?

@[simp] theorem presses_append (a b : List ClickCall) :
    presses (a ++ b) = presses a ++ presses b :=
  List.filterMap_append

/-- The times of a history never decrease. -/
def Ordered (calls : List ClickCall) : Prop := (calls.filterMap time?).Pairwise (· ≤ ·)

theorem Ordered.sublist {a b : List ClickCall} (h : Ordered b) (sub : a.Sublist b) : Ordered a :=
  List.Pairwise.sublist (sub.filterMap time?) h

/-- The latest time of a history, zero before the first. -/
def clock (calls : List ClickCall) : Millis := (calls.filterMap time?).getLast?.getD 0

theorem clock_append_singleton (calls : List ClickCall) (c : ClickCall) :
    clock (calls ++ [c]) = c.time?.getD (clock calls) := by
  unfold clock
  rw [List.filterMap_append, List.getLast?_append]
  cases h : c.time? with
  | none => simp [h]
  | some t => simp [h]

/-- In an ordered history the next call is no earlier than the clock. -/
theorem Ordered.clock_le {calls : List ClickCall} {c : ClickCall} (h : Ordered (calls ++ [c]))
    {t : Millis} (ht : c.time? = some t) : clock calls ≤ t := by
  unfold Ordered at h
  rw [List.filterMap_append, List.pairwise_append] at h
  obtain ⟨-, -, before⟩ := h
  unfold clock
  cases hl : (calls.filterMap time?).getLast? with
  | none => exact Nat.zero_le t
  | some last =>
    have mem : last ∈ calls.filterMap time? := List.mem_of_getLast? hl
    exact before last mem t (by simp [ht])

end ClickCall

namespace ClickRun

/-- Answers a call: a press reports the count that it leads to, a release the count before it,
motion the count after it unless it is suppressed, and a wheel notch a count of its own. -/
def onCall (threshold : Millis) (r : ClickRun) : ClickCall → ClickRun × Option Nat
  | .press b now p => (r.press b now p threshold, some (r.press b now p threshold).count)
  | .release b now _ => (r.release b now threshold, some r.count)
  | .motion now p =>
    match r.motion? now p threshold with
    | none => (r, none)
    | some moved => (moved, some moved.count)
  | .wheel => (r.wheel, some r.wheel.count)

/-- Motion leaves all but the count, which it ends when it is late. -/
theorem motion?_cases {r moved : ClickRun} {now : Millis} {p : Point} {threshold : Millis}
    (h : r.motion? now p threshold = some moved) :
    moved = r ∨ threshold < r.elapsed now ∧ moved = { r with count := 0 } := by
  unfold motion? at h
  split at h
  · cases h
  · split at h
    · next late => exact .inr ⟨late, (Option.some.inj h).symm⟩
    · exact .inl (Option.some.inj h).symm

/-- Releases and motion leave all but the count, which they end when they are late. -/
theorem onCall_idle {threshold : Millis} {r : ClickRun} {c : ClickCall} {now : Millis}
    (ht : c.time? = some now) (hp : c.press? = none) :
    (r.onCall threshold c).1 = r ∨
      threshold < r.elapsed now ∧ (r.onCall threshold c).1 = { r with count := 0 } := by
  cases c with
  | press b t p => cases hp
  | wheel => cases ht
  | release b t p =>
    obtain rfl := Option.some.inj ht
    show r.release b t threshold = r ∨ _ ∧ r.release b t threshold = _
    unfold release
    split
    · next late => exact .inr ⟨late.2, rfl⟩
    · exact .inl rfl
  | motion t p =>
    obtain rfl := Option.some.inj ht
    cases hm : r.motion? t p threshold with
    | none => exact .inl (by simp only [onCall, hm])
    | some moved =>
      have answer : (r.onCall threshold (.motion t p)).1 = moved := by simp only [onCall, hm]
      rw [answer]
      exact motion?_cases hm

end ClickRun

end InputTap
