import InputTap.Proofs.Normalizer.ClickPoint
import InputTap.Proofs.Normalizer.Events
import InputTap.Proofs.Normalizer.HeldBits
import Mathlib.Data.List.DropRight

/-!
# What a history leaves

On the hook clock, what a new normalizer tracks is a fold of the inputs: one of the keys and one of
the click run (`trackedAfter`), and a consumer that passes everything hears of each input what that
tracking reports (`heard_append_singleton`). Before the first press of a button the click run holds
nothing but the count of the latest wheel notch, which ends at the first motion beyond the threshold
on the clock: there is no press yet from which time could be measured (`clicksOf_unpressed`).
-/

set_option autoImplicit false

namespace InputTap

/-- Events of these kinds, at one time and under one mask. -/
def Event.stamped (time : Millis) (mask : Mask) (kinds : List EventKind) : List Event :=
  kinds.map fun kind => { time, mask, kind }

namespace ClickRun

/-- A click run in which no button was pressed yet. -/
def unpressed (count : Nat) : ClickRun := { count }

section Unpressed

variable (n : Nat) (now threshold : Millis)

theorem release_unpressed (b : Button) :
    (unpressed n).release b now threshold = unpressed n := by
  simp [release, unpressed]

/-- Without a press the clock itself is what motion compares with the threshold. -/
theorem motion?_unpressed (p : Point) :
    (unpressed n).motion? now p threshold =
      some (unpressed (if threshold < now then 0 else n)) := by
  have elapsed : (unpressed n).elapsed now = now := Nat.sub_zero now
  unfold motion?
  rw [elapsed]
  show (if false = true then _ else _) = _
  rw [if_neg Bool.false_ne_true]
  split <;> rfl

end Unpressed

end ClickRun

namespace Capture

namespace RawInput

/-- The input is a wheel notch. -/
def isNotch : RawInput → Bool
  | .wheel .. => true
  | _ => false

/-- The time of an input that is motion. -/
def motionTime? : RawInput → Option Millis
  | .motion _ time => some time
  | _ => none

/-- The input reports a count that it does not begin: motion and the release of a button. -/
def reportsCount : RawInput → Bool
  | .motion .. | .buttonUp .. => true
  | _ => false

/-- The count of an input that begins one. -/
def startsCount? : RawInput → Option Nat
  | .buttonDown .. | .wheel .. => some 1
  | _ => none

end RawInput

theorem forall_mem_append_singleton {P : RawInput → Prop} {inputs : List RawInput}
    {raw : RawInput} : (∀ r ∈ inputs ++ [raw], P r) ↔ (∀ r ∈ inputs, P r) ∧ P raw := by
  rw [List.forall_mem_append, List.forall_mem_singleton]

/-! ### The tracking as a fold -/

/-- The keys after an input. -/
def keysAfter (h : HeldKeys) : RawInput → HeldKeys
  | .keyDown vk _ _ => match Mask.ofVirtual? vk with | some bit => h.press bit | none => h
  | .keyUp vk _ _ => match Mask.ofVirtual? vk with | some bit => h.unset bit | none => h
  | .buttonDown b _ _ => match b.button.mask? with | some bit => h.set bit | none => h
  | .buttonUp b _ _ => match b.button.mask? with | some bit => h.unset bit | none => h
  | .motion .. | .wheel .. | .unrecognized .. => h

/-- The click run after an input whose own time is the one that counts. -/
def clicksAfter (threshold : Millis) (r : ClickRun) : RawInput → ClickRun
  | .buttonDown b p time => r.press b.button time p threshold
  | .buttonUp b _ time => r.release b.button time threshold
  | .motion p time => (r.motion? time p threshold).getD r
  | .wheel .. => r.wheel
  | .keyDown .. | .keyUp .. | .unrecognized .. => r

theorem Surroundings.stamp_hook {w : Surroundings} (hw : w.options.clock = .hook)
    (time : Millis) : w.stamp time = time := by
  unfold stamp
  rw [hw]

/-- On the hook clock a step moves the keys and the click run, each by itself. -/
theorem Tracking.step_hook {w : Surroundings} (hw : w.options.clock = .hook) (t : Tracking)
    (raw : RawInput) :
    (t.step w raw).1 = ⟨keysAfter t.keys raw, clicksAfter w.threshold t.clicks raw⟩ := by
  have stamp := Surroundings.stamp_hook hw
  cases raw with
  | buttonDown b p time =>
    show Tracking.mk _ (t.clicks.press b.button (w.stamp time) p w.threshold) = _
    rw [stamp]
    rfl
  | buttonUp b p time =>
    show Tracking.mk _ (t.clicks.release b.button (w.stamp time) w.threshold) = _
    rw [stamp]
    rfl
  | motion p time =>
    show (t.motion w p time).1 = ⟨t.keys, (t.clicks.motion? time p w.threshold).getD t.clicks⟩
    cases hm : t.clicks.motion? time p w.threshold with
    | none =>
      rw [motion_of_none (by rw [stamp, hm])]
      rfl
    | some clicks =>
      obtain ⟨data, moved⟩ := motion_of_some (t := t) (w := w) (by rw [stamp, hm])
      rw [moved]
      rfl
  | wheel axis delta p time => rfl
  | keyDown vk extended time => rfl
  | keyUp vk extended time => rfl
  | unrecognized message time => rfl

/-- The click run after a history of inputs. -/
def clicksOf (threshold : Millis) (inputs : List RawInput) : ClickRun :=
  inputs.foldl (clicksAfter threshold) {}

/-- What a new normalizer tracks after a history of inputs. -/
def trackedAfter (threshold : Millis) (inputs : List RawInput) : Tracking where
  keys := inputs.foldl keysAfter {}
  clicks := clicksOf threshold inputs

theorem clicksOf_append_singleton (threshold : Millis) (inputs : List RawInput) (raw : RawInput) :
    clicksOf threshold (inputs ++ [raw]) = clicksAfter threshold (clicksOf threshold inputs) raw :=
  List.foldl_append

/-- What an input reports after a history of a new normalizer. -/
def reportsAfter (w : Surroundings) (before : List RawInput) (raw : RawInput) : List EventKind :=
  (trackedAfter w.threshold before).reports (trackedAfter w.threshold (before ++ [raw])) w false raw

namespace Normalizer

variable {σ : Type} {w : Surroundings}

theorem tracking_final (hw : w.options.clock = .hook) (x : Dispatcher σ)
    (inputs : List RawInput) :
    (Run.final onInput { dispatcher := x } (inputs.map (w, ·))).tracking =
      trackedAfter w.threshold inputs := by
  induction inputs using List.reverseRecOn with
  | nil => rfl
  | append_singleton inputs raw ih =>
    rw [List.map_append, Run.final_append]
    show (Tracking.step _ w raw).1 = _
    rw [ih, Tracking.step_hook hw]
    unfold trackedAfter
    rw [clicksOf_append_singleton, List.foldl_append]
    rfl

/-- The events that a consumer hears of each input of a new normalizer, all in the same
surroundings. -/
def heard (w : Surroundings) (c : Consumer σ) (inputs : List RawInput) : List (List Event) :=
  (Run.steps onInput { dispatcher := .register c } (inputs.map (w, ·))).map fun st =>
    st.output.events

/-- One more input is heard as what it reports after the inputs before it. -/
theorem heard_append_singleton (hw : w.options.clock = .hook) {c : Consumer σ}
    (passes : c.PassesAll) (inputs : List RawInput) (raw : RawInput) :
    heard w c (inputs ++ [raw]) =
      heard w c inputs ++ [Event.stamped raw.time
        (trackedAfter w.threshold (inputs ++ [raw])).keys.held (reportsAfter w inputs raw)] := by
  let before := Run.final onInput { dispatcher := .register c } (inputs.map (w, ·))
  have split : Run.steps onInput { dispatcher := .register c } ((inputs ++ [raw]).map (w, ·)) =
      Run.steps onInput { dispatcher := .register c } (inputs.map (w, ·)) ++
        [Run.stepOf onInput before (w, raw)] := by
    rw [List.map_append, Run.steps_append]
    rfl
  have last : Run.stepOf onInput before (w, raw) ∈
      Run.steps onInput { dispatcher := .register c } ((inputs ++ [raw]).map (w, ·)) := by
    rw [split]
    exact List.mem_append_right _ (List.mem_singleton_self _)
  have tracked : before.tracking = trackedAfter w.threshold inputs := tracking_final hw _ inputs
  have tracked' : (before.onInput (w, raw)).1.tracking =
      trackedAfter w.threshold (inputs ++ [raw]) := by
    rw [← tracking_final hw (.register c), List.map_append, Run.final_append]
    rfl
  have events : (before.onInput (w, raw)).2.events =
      Event.stamped (w.stamp raw.time) (before.onInput (w, raw)).1.tracking.keys.held
        (before.tracking.reports (before.onInput (w, raw)).1.tracking w false raw) :=
    events_of_mem_steps passes _ last
  rw [tracked, tracked', Surroundings.stamp_hook hw] at events
  unfold heard
  rw [split, List.map_append]
  exact congrArg (fun es => _ ++ [es]) events

end Normalizer

/-! ### Before the first press -/

/-- The times of the motion since the latest wheel notch. -/
def motionsSinceNotch (inputs : List RawInput) : List Millis :=
  (inputs.rtakeWhile fun raw => !raw.isNotch).filterMap RawInput.motionTime?

/-- The latest wheel notch still counts, if no button was pressed yet: no motion since it was
beyond the threshold on the clock. -/
structure NotchCounts (threshold : Millis) (inputs : List RawInput) : Prop where
  turned : ∃ r ∈ inputs, r.isNotch = true
  young : ∀ time ∈ motionsSinceNotch inputs, time ≤ threshold

theorem notchCounts_iff {threshold : Millis} {inputs : List RawInput} :
    NotchCounts threshold inputs ↔
      (∃ r ∈ inputs, r.isNotch = true) ∧ ∀ time ∈ motionsSinceNotch inputs, time ≤ threshold :=
  ⟨fun h => ⟨h.turned, h.young⟩, fun h => ⟨h.1, h.2⟩⟩

instance (threshold : Millis) (inputs : List RawInput) :
    Decidable (NotchCounts threshold inputs) :=
  decidable_of_iff' _ notchCounts_iff

theorem motionsSinceNotch_append_singleton (inputs : List RawInput) (raw : RawInput) :
    motionsSinceNotch (inputs ++ [raw]) =
      if raw.isNotch then [] else motionsSinceNotch inputs ++ raw.motionTime?.toList := by
  unfold motionsSinceNotch
  rw [List.rtakeWhile_concat]
  cases notch : raw.isNotch with
  | true => rfl
  | false =>
    simp only [Bool.not_false, if_true, List.filterMap_append]
    cases h : raw.motionTime? <;> simp [h]

/-- A notch counts from then on, until motion comes beyond the threshold. -/
theorem notchCounts_append_singleton (threshold : Millis) (inputs : List RawInput)
    (raw : RawInput) :
    NotchCounts threshold (inputs ++ [raw]) ↔
      raw.isNotch = true ∨
        NotchCounts threshold inputs ∧ ∀ time ∈ raw.motionTime?, time ≤ threshold := by
  rw [notchCounts_iff, notchCounts_iff, motionsSinceNotch_append_singleton]
  cases notch : raw.isNotch with
  | true => simp [notch]
  | false =>
    simp only [List.mem_append, List.mem_singleton, Option.mem_toList, Bool.false_eq_true,
      if_false, false_or, or_and_right, exists_or, exists_eq_left, notch, or_false, or_imp,
      forall_and, and_assoc, Option.mem_def]

/-- The count that the wheel leaves while no button was pressed. -/
def notchCount (threshold : Millis) (inputs : List RawInput) : Nat :=
  if NotchCounts threshold inputs then 1 else 0

/-- Only the wheel and motion change that count. -/
theorem notchCount_append_singleton {raw : RawInput} (notch : raw.isNotch = false)
    (still : raw.motionTime? = none) (threshold : Millis) (inputs : List RawInput) :
    notchCount threshold (inputs ++ [raw]) = notchCount threshold inputs := by
  have counts := notchCounts_append_singleton threshold inputs raw
  simp [notchCount, counts, notch, still]

/-- Before the first press an input moves the count of the wheel. -/
theorem clicksAfter_unpressed {raw : RawInput} (h : raw.press? = none) (threshold : Millis)
    (inputs : List RawInput) :
    clicksAfter threshold (.unpressed (notchCount threshold inputs)) raw =
      .unpressed (notchCount threshold (inputs ++ [raw])) := by
  have counts := notchCounts_append_singleton threshold inputs raw
  cases raw with
  | buttonDown b p time => cases h
  | buttonUp b p time =>
    rw [notchCount_append_singleton rfl rfl]
    exact ClickRun.release_unpressed _ _ _ _
  | motion p time =>
    have since : NotchCounts threshold (inputs ++ [.motion p time]) ↔
        NotchCounts threshold inputs ∧ time ≤ threshold := by
      simpa [RawInput.isNotch, RawInput.motionTime?] using counts
    show ((ClickRun.unpressed _).motion? time p threshold).getD _ = _
    rw [ClickRun.motion?_unpressed, Option.getD_some]
    unfold notchCount
    by_cases late : threshold < time
    · have ended : ¬ NotchCounts threshold (inputs ++ [.motion p time]) := by
        intro still
        exact absurd (since.1 still).2 (Nat.not_le.2 late)
      rw [if_pos late, if_neg ended]
    · have same : NotchCounts threshold (inputs ++ [.motion p time]) ↔
          NotchCounts threshold inputs := by
        rw [since, and_iff_left (Nat.not_lt.1 late)]
      simp only [if_neg late, same]
  | wheel axis delta p time =>
    have turned : NotchCounts threshold (inputs ++ [.wheel axis delta p time]) :=
      counts.2 (.inl rfl)
    show ClickRun.unpressed 1 = _
    rw [notchCount, if_pos turned]
  | keyDown vk extended time =>
    rw [notchCount_append_singleton rfl rfl]
    rfl
  | keyUp vk extended time =>
    rw [notchCount_append_singleton rfl rfl]
    rfl
  | unrecognized message time =>
    rw [notchCount_append_singleton rfl rfl]
    rfl

/-- Before the first press the click run holds nothing but the count of the wheel. -/
theorem clicksOf_unpressed {inputs : List RawInput} (h : ∀ r ∈ inputs, r.press? = none)
    (threshold : Millis) :
    clicksOf threshold inputs = .unpressed (notchCount threshold inputs) := by
  induction inputs using List.reverseRecOn with
  | nil => rfl
  | append_singleton inputs raw ih =>
    obtain ⟨before, unpressed⟩ := forall_mem_append_singleton.1 h
    rw [clicksOf_append_singleton, ih before]
    exact clicksAfter_unpressed unpressed threshold inputs

/-- The count in the events of an input, if they have one. -/
def Tracking.countReported (before after : Tracking) : RawInput → Option Nat
  | .buttonDown .. | .motion .. | .wheel .. => some after.clicks.count
  | .buttonUp .. => some before.clicks.count
  | .keyDown .. | .keyUp .. | .unrecognized .. => none

/-- The count in the events of an input after a history of a new normalizer. -/
def countAfter (threshold : Millis) (before : List RawInput) (raw : RawInput) : Option Nat :=
  (trackedAfter threshold before).countReported (trackedAfter threshold (before ++ [raw])) raw

/-- Before the first press motion and releases report the count that the wheel leaves, a press and a
notch report one. -/
theorem countAfter_unpressed {before : List RawInput} (unpressed : ∀ r ∈ before, r.press? = none)
    (threshold : Millis) (raw : RawInput) :
    countAfter threshold before raw =
      if raw.reportsCount then some (notchCount threshold (before ++ [raw]))
      else raw.startsCount? := by
  have moved := clicksOf_append_singleton threshold before raw
  rw [clicksOf_unpressed unpressed] at moved
  cases raw with
  | buttonUp b p time =>
    show some (clicksOf threshold before).count = some _
    rw [clicksOf_unpressed unpressed, notchCount_append_singleton rfl rfl]
    rfl
  | motion p time =>
    show some (clicksOf threshold (before ++ [.motion p time])).count = some _
    rw [clicksOf_unpressed (forall_mem_append_singleton.2 ⟨unpressed, rfl⟩)]
    rfl
  | buttonDown b p time =>
    show some (clicksOf threshold (before ++ [.buttonDown b p time])).count = some 1
    rw [moved]
    rfl
  | wheel axis delta p time =>
    show some (clicksOf threshold (before ++ [.wheel axis delta p time])).count = some 1
    rw [moved]
    rfl
  | keyDown vk extended time => rfl
  | keyUp vk extended time => rfl
  | unrecognized message time => rfl

end Capture

end InputTap
