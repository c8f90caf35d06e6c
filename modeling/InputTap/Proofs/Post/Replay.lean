import InputTap.Proofs.Normalizer.WellFormed
import InputTap.Proofs.Post.Records
import InputTap.Proofs.Words
import Mathlib.Data.List.Basic

/-!
# Posting what was captured

Captured input is posted back event by event, without moving the pointer. Each key, button and wheel
input comes back as the one record that `replay?` gives for it, and the other inputs come back as
none. Of the events only the derived ones, which are typed characters and clicks, and the
keys without a place are refused (`replayOutcome`).
-/

set_option autoImplicit false

namespace InputTap

namespace EventKind

/-- The kind is one that an input can report: it is not about the hook, and where a button went down
or up the button is named. -/
def FromInput : EventKind → Prop
  | .hookEnabled | .hookDisabled => False
  | .mouse .pressed d | .mouse .released d => d.button ≠ none
  | _ => True

theorem WellFormed.fromInput {raw : Capture.RawInput} {mask : Mask} {kind : EventKind}
    (h : kind.WellFormed raw mask) : kind.FromInput := by
  cases kind with
  | hookEnabled => exact h
  | hookDisabled => exact h
  | key action d => exact trivial
  | wheel d => exact trivial
  | mouse action d =>
    cases action with
    | pressed | released =>
      obtain ⟨⟨b, named, -⟩, -⟩ := h
      show d.button ≠ none
      rw [named]
      exact Option.some_ne_none b
    | clicked | moved | dragged => exact trivial

end EventKind

namespace Post

open Capture

/-- The outcome of posting an event that an input reported. -/
def replayOutcome (e : Event) : Except PostFault Unit :=
  match e.kind with
  | .key .typed _ | .mouse .clicked _ => .error (.unsupportedType e.type)
  | .key _ d => if d.code = .undefined then .error (.unmappedKey .undefined) else .ok ()
  | _ => .ok ()

/-- The record of a key, if it has a place. -/
def keyReplay? (extendedKeys : List KeyCode) (held : Mask) (vk : VirtualKey) (extended up : Bool) :
    Option Record :=
  if KeyCode.ofVirtual vk extended = .undefined then none
  else some (.key
    { key := vk.sided extended, up
      extended := held.meets Mask.shift && KeyCode.ofVirtual vk extended ∈ extendedKeys })

/-- The record of a button. An index is at most the greatest that event buttons can number, and a
missing one counts as the first. -/
def buttonReplay (b : RawButton) (up : Bool) : Record :=
  .pointer <| match b with
  | .left => { action := if up then .leftUp else .leftDown }
  | .right => { action := if up then .rightUp else .rightDown }
  | .middle => { action := if up then .middleUp else .middleDown }
  | .indexed i =>
    { action := if up then .extraUp else .extraDown
      data := if i = 0 then 1 else min 65532 (i.toNat : Int) }

/-- The record of a wheel notch: the native turn, as often as one notch scrolls. The least vertical
turn has no negative, so that it comes back as its neighbour. -/
def wheelReplay (amount : UInt16) (axis : WheelAxis) (delta : Int16) : Record :=
  .pointer <| match axis with
  | .vertical => { action := .wheel, data := amount.toNat * max (-32767) delta.toInt }
  | .horizontal => { action := .horizontalWheel, data := amount.toNat * delta.toInt }

/-- The record that an input comes back as. The mask is the one after the input. -/
def replay? (extendedKeys : List KeyCode) (w : Surroundings) (held : Mask) :
    RawInput → Option Record
  | .keyDown vk extended _ => keyReplay? extendedKeys held vk extended false
  | .keyUp vk extended _ => keyReplay? extendedKeys held vk extended true
  | .buttonDown b _ _ => some (buttonReplay b false)
  | .buttonUp b _ _ => some (buttonReplay b true)
  | .wheel axis delta _ _ => some (wheelReplay w.scroll.2 axis delta)
  | .motion _ _ | .unrecognized _ _ => none

/-- A button comes back with its own action and index. -/
theorem buttonRecord_button (b : RawButton) (up : Bool) :
    Poster.buttonRecord b.button up = buttonReplay b up := by
  cases b with
  | left => rfl
  | right => rfl
  | middle => rfl
  | indexed i =>
    show Poster.buttonRecord (if i = 0 ∨ i = 1 then _ else if i = 2 then _ else _) up =
      .pointer { action := _, data := if i = 0 then 1 else min 65532 (i.toNat : Int) }
    by_cases fourth : i = 0 ∨ i = 1
    · rw [if_pos fourth]
      rcases fourth with rfl | rfl <;> rfl
    · rw [if_neg fourth, if_neg fun missing => fourth (.inl missing)]
      by_cases fifth : i = 2
      · rw [if_pos fifth, fifth]
        rfl
      · have data : ((Saturate.toUInt16 (i.toNat + 3)).toNat : Int) - 3 =
            min 65532 (i.toNat : Int) := by
          rw [Saturate.toNat_toUInt16]
          omega
        rw [if_neg fifth, ← data]
        rfl

/-- The action of a turn about an axis. -/
def wheelAction : WheelAxis → PointerAction
  | .vertical => .wheel
  | .horizontal => .horizontalWheel

/-- A turn about an axis as the desktop counts it: up is positive. -/
def desktopTurn : WheelAxis → Int → Int
  | .vertical, turn => -turn
  | .horizontal, turn => turn

/-- The turn of a wheel fits the word of a record, either way round. -/
theorem turn_inWord (amount : UInt16) (rotation : Int16) :
    InWord 32 (amount.toNat * rotation.toInt) ∧ InWord 32 (-(amount.toNat * rotation.toInt)) := by
  have amount_lt := amount.toNat_lt
  have rotation_ge := rotation.le_toInt
  have rotation_lt := rotation.toInt_lt
  have least : (amount.toNat : Int) * (-32768) ≤ amount.toNat * rotation.toInt :=
    Int.mul_le_mul_of_nonneg_left (by omega) (by omega)
  have greatest : (amount.toNat : Int) * rotation.toInt ≤ amount.toNat * 32767 :=
    Int.mul_le_mul_of_nonneg_left (by omega) (by omega)
  unfold InWord
  omega

/-- A turn is posted as it is, never saturated. -/
theorem wheelRecord_eq (d : WheelData) :
    Poster.wheelRecord d = .pointer
      { action := wheelAction d.axis
        data := desktopTurn d.axis (d.amount.toNat * d.rotation.toInt) } := by
  obtain ⟨fits, back_fits⟩ := turn_inWord d.amount d.rotation
  obtain ⟨clicks, x, y, scroll, amount, rotation, axis⟩ := d
  unfold Poster.wheelRecord
  simp only at fits back_fits ⊢
  rw [Saturate.int32_of_inWord fits, Saturate.int32_of_inWord back_fits]
  cases axis <;> rfl

/-- A wheel notch comes back with its native turn. -/
theorem wheelRecord_wheel (amount : UInt16) (axis : WheelAxis) (delta : Int16) (clicks : Nat)
    (x y : Int16) (scroll : ScrollUnit) :
    Poster.wheelRecord
        { clicks, x, y, scroll, amount
          rotation := match axis with
            | .vertical => Saturate.negInt16 delta
            | .horizontal => delta
          axis } = wheelReplay amount axis delta := by
  rw [wheelRecord_eq]
  cases axis with
  | vertical =>
    show Record.pointer { action := .wheel, data := -(_ * _) } =
      .pointer { action := .wheel, data := _ }
    rw [← Int.mul_neg, Saturate.neg_negInt16]
  | horizontal => rfl

section Standard

variable (desktop : Desktop) (extendedKeys : List KeyCode)

/-- What an input reports can be posted, but for derived events and keys without a place. -/
theorem outcome_of_fromInput {e : Event} (h : e.kind.FromInput) :
    (standardPoster desktop extendedKeys).outcome e false = replayOutcome e := by
  obtain ⟨time, mask, kind⟩ := e
  cases kind with
  | hookEnabled => exact h.elim
  | hookDisabled => exact h.elim
  | wheel d => rfl
  | key action d =>
    cases action with
    | typed => rfl
    | pressed => exact outcome_keyAction desktop extendedKeys time mask false d
    | released => exact outcome_keyAction desktop extendedKeys time mask true d
  | mouse action d =>
    obtain ⟨button, clicks, x, y⟩ := d
    cases button with
    | some b => cases action <;> rfl
    | none =>
      cases action with
      | clicked => rfl
      | pressed => exact absurd rfl h
      | released => exact absurd rfl h
      | moved => rfl
      | dragged => rfl

/-- A key event gives the record that its input comes back as. -/
theorem built_keyAction (time : Millis) (mask : Mask) (vk : VirtualKey) (extended up : Bool) :
    (standardPoster desktop extendedKeys).built
        ⟨time, mask, .key (keyAction up) { code := .ofVirtual vk extended, rawCode := vk }⟩ false =
      (keyReplay? extendedKeys mask vk extended up).toList := by
  unfold Poster.built keyReplay?
  rw [records_keyAction]
  have round := KeyCode.toVirtual?_ofVirtual vk extended
  by_cases undefined : KeyCode.ofVirtual vk extended = .undefined
  · rw [if_pos undefined, undefined]
    rfl
  · rw [if_neg undefined] at round
    rw [if_neg undefined, keyRecord_of_toVirtual? desktop extendedKeys round]
    rfl

/-- The records of what an input reports are the one that the input comes back as. -/
theorem built_reports (before after : Tracking) (w : Surroundings) (raw : RawInput)
    (standard : w.layout = .standard) (time : Millis) (held : Mask) :
    ((before.reports after w false raw).map fun kind => (⟨time, held, kind⟩ : Event)).flatMap
        (fun e => (standardPoster desktop extendedKeys).built e false) =
      (replay? extendedKeys w held raw).toList := by
  rw [List.flatMap_map]
  cases raw with
  | keyDown vk extended t =>
    have typed : ((w.layout.typed vk after.keys.typingMask).map fun c =>
        EventKind.key .typed { code := .undefined, rawCode := vk, char := some c }).flatMap
          (fun kind => (standardPoster desktop extendedKeys).built ⟨time, held, kind⟩ false) =
            [] := by
      rw [List.flatMap_map]
      exact List.flatMap_eq_nil_iff.2 fun _ _ => rfl
    show _ ++ (List.flatMap _ (List.map _ _)) = _
    rw [typed, List.append_nil]
    rw [standard]
    exact built_keyAction desktop extendedKeys time held vk extended false
  | keyUp vk extended t =>
    show _ ++ [] = _
    rw [List.append_nil, standard]
    exact built_keyAction desktop extendedKeys time held vk extended true
  | buttonDown b p t =>
    show [Poster.buttonRecord b.button false] = _
    rw [buttonRecord_button]
    rfl
  | buttonUp b p t =>
    show Poster.buttonRecord b.button true :: List.flatMap _ (if _ then _ else _) = _
    rw [buttonRecord_button]
    split <;> rfl
  | motion p t =>
    show List.flatMap _ (if _ then _ else [_]) = _
    split
    · rfl
    · show List.flatMap _ [EventKind.mouse (if _ then _ else _) _] = _
      split <;> rfl
  | wheel axis delta p t =>
    have turned := wheelRecord_wheel w.scroll.2 axis delta after.clicks.count p.eventX p.eventY
      w.scroll.1
    exact congrArg (fun r => [r]) turned
  | unrecognized message t => rfl

end Standard

section Run

variable {σ τ : Type} {t : Tracking} {c : Consumer σ}
  {inputs : List (Surroundings × RawInput)}

/-- Everything that a consumer received can be posted, but for derived events and keys without a
place. -/
theorem outcome_of_mem_events (desktop : Desktop) (extendedKeys : List KeyCode) {e : Event}
    (he : e ∈ (Run.steps Normalizer.onInput { tracking := t, dispatcher := .register c }
      inputs).flatMap fun st => st.output.events) :
    (standardPoster desktop extendedKeys).outcome e false = replayOutcome e := by
  obtain ⟨st, hst, received⟩ := List.mem_flatMap.1 he
  obtain ⟨before, i, after, -, rfl⟩ := Run.mem_steps_iff.1 hst
  have wellFormed := Normalizer.wellFormed_onInput _ i (Trace.events_subset_offered _ received)
  exact outcome_of_fromInput desktop extendedKeys wellFormed.fromInput

variable (passes : c.PassesAll) (standard : ∀ x ∈ inputs, x.1.layout = .standard)

include passes

include standard

/-- The records of what a consumer received are those that the inputs come back as. -/
theorem built_events (desktop : Desktop) (extendedKeys : List KeyCode) :
    ((Run.steps Normalizer.onInput { tracking := t, dispatcher := .register c }
        inputs).flatMap fun st => st.output.events).flatMap
          (fun e => (standardPoster desktop extendedKeys).built e false) =
      (Run.steps Normalizer.onInput { tracking := t, dispatcher := .register c }
        inputs).filterMap fun st => replay? extendedKeys st.input.1 st.after.held st.input.2 := by
  rw [List.flatMap_assoc, List.filterMap_eq_flatMap_toList]
  refine List.flatMap_congr fun st hst => ?_
  have layout : st.input.1.layout = .standard := by
    obtain ⟨before, i, after, rfl, rfl⟩ := Run.mem_steps_iff.1 hst
    exact standard i (List.mem_append_right _ List.mem_cons_self)
  rw [Normalizer.events_of_mem_steps passes st hst]
  exact built_reports desktop extendedKeys _ _ _ _ layout _ _

end Run

/-- **Captured input replays one for one.** From every state, under the standard layout and with a
consumer that passes everything: posting all that it received, in order, without moving the pointer
and going on after errors, on an injector that accepts everything, is refused exactly for derived
events and keys without a place; and the injector takes in, in the order of the inputs, the record
that each of them comes back as. -/
theorem replay_one_for_one {σ τ : Type} (t : Tracking) (c : Consumer σ) (passes : c.PassesAll)
    (inputs : List (Surroundings × RawInput)) (standard : ∀ x ∈ inputs, x.1.layout = .standard)
    (desktop : Desktop) (extendedKeys : List KeyCode) (i : Injector τ) (accepts : i.AcceptsAll) :
    let poster : Poster := { layout := .standard, desktop, extendedKeys }
    let steps := Run.steps Normalizer.onInput { tracking := t, dispatcher := .register c } inputs
    let events := steps.flatMap fun st => st.output.events
    let records :=
      steps.filterMap fun st => replay? extendedKeys st.input.1 st.after.held st.input.2
    (Run.steps (poster.onEvent false) i events).map Run.Step.output = events.map replayOutcome ∧
      Run.final (poster.onEvent false) i events = i.fed records ∧
      (Run.final (poster.onEvent false) (Injector.limited none) events).state = records := by
  intro poster steps events records
  have built : events.flatMap (fun e => poster.built e false) = records :=
    built_events passes standard desktop extendedKeys
  refine ⟨?_, ?_, ?_⟩
  · rw [Poster.outputs_onEvent poster false accepts]
    exact List.map_congr_left fun e he => outcome_of_mem_events desktop extendedKeys he
  · rw [Poster.final_onEvent poster false accepts, built]
  · rw [Poster.final_onEvent poster false Injector.acceptsAll_limited, built,
      Injector.state_fed_limited]

/-- A letter is typed, the generic control key goes down with the extended flag, a button without
its index is pressed, the pointer rests there, the wheel turns by the least amount, and a key
without a place goes up. -/
def mixedInputs : List (Surroundings × RawInput) :=
  [({}, .keyDown 0x41 false 1), ({}, .keyDown VirtualKey.control true 2),
    ({}, .buttonDown (.indexed 0) ⟨5, 5⟩ 3), ({}, .motion ⟨5, 5⟩ 4),
    ({}, .wheel .vertical (-32768) ⟨5, 5⟩ 5), ({}, .keyUp 0 false 6)]

/-- Six events come of the six inputs, of which the character and the last key are refused, and
four records of four of the inputs. -/
theorem replay_one_for_one_mixed :
    (∀ x ∈ mixedInputs, x.1.layout = .standard) ∧ Consumer.passing.PassesAll ∧
      (Injector.limited none).AcceptsAll ∧
      let events := (Run.steps Normalizer.onInput { dispatcher := .register .passing }
        mixedInputs).flatMap fun st => st.output.events
      (Run.steps (({} : Poster).onEvent false) (Injector.limited none) events).map
          Run.Step.output =
        [.ok (), .error (.unsupportedType (.key .typed)), .ok (), .ok (), .ok (),
          .error (.unmappedKey .undefined)] ∧
      (Run.final (({} : Poster).onEvent false) (Injector.limited none) events).state =
        [.key { key := 0x41, up := false, extended := false },
          .key { key := VirtualKey.rightControl, up := false, extended := false },
          .pointer { action := .extraDown, data := 1 },
          .pointer { action := .wheel, data := -98301 }] := by
  have standard : ∀ x ∈ mixedInputs, x.1.layout = .standard := by simp [mixedInputs]
  obtain ⟨outcomes, -, records⟩ := replay_one_for_one {} .passing Consumer.passesAll_passing
    mixedInputs standard .single defaultExtendedKeys (Injector.limited none)
    Injector.acceptsAll_limited
  refine ⟨standard, Consumer.passesAll_passing, Injector.acceptsAll_limited, ?_, ?_⟩
  · refine outcomes.trans ?_
    decide +kernel
  · refine records.trans ?_
    decide +kernel

end Post

end InputTap
