import InputTap.Post.Gesture
import InputTap.Proofs.Normalizer.ModifierKeys
import InputTap.Proofs.Normalizer.Rises
import InputTap.Proofs.Post.Recapture
import Mathlib.Data.List.Forall2

/-!
# Chords that are captured again

A chord is posted as one stroke after the other: its keys go down in order, the target last, and up
in the reverse order (`Gesture.strokes`). Each stroke is one key record, which turns the bit of its
key. So a bit of the chord goes down as often as it is listed and then up as often, whatever was
listed in between, and that leaves it up with one turn of its lock
(`chord_leaves_no_key_held`).
-/

set_option autoImplicit false

namespace InputTap.Post

open Capture
open Mask (lockBits)

/-- A key that goes down or up. -/
structure Stroke where
  key : KeyCode
  up : Bool
deriving DecidableEq, Inhabited

namespace Stroke

/-- How a stroke is asked for. -/
def kind (s : Stroke) : EventKind := .key (keyAction s.up) { code := s.key, rawCode := 0 }

/-- How a stroke turns a bit. -/
def turns? (i : Fin 16) (s : Stroke) : Option Bool :=
  if s.key.bit? = some i then some (!s.up) else none

/-- The record is the stroke on the virtual key of its key. -/
def RecordedAs (s : Stroke) (r : KeyRecord) : Prop :=
  s.key.toVirtual? = some r.key ∧ r.up = s.up

end Stroke

/-- The input is the record, reported at some time in some surroundings. -/
def KeyRecord.CapturedAs (r : KeyRecord) (x : Surroundings × RawInput) : Prop :=
  ∃ time, x.2 = r.raw time

/-- The strokes of a chord: its keys go down in order, the target last, and up in the reverse
order. -/
def Gesture.strokes (modifiers : List KeyCode) (target : KeyCode) : List Stroke :=
  (modifiers ++ [target]).map (Stroke.mk · false) ++
    (modifiers ++ [target]).reverse.map (Stroke.mk · true)

namespace Gesture

theorem strokes_cons (k target : KeyCode) (modifiers : List KeyCode) :
    strokes (k :: modifiers) target = ⟨k, false⟩ :: strokes modifiers target ++ [⟨k, true⟩] := by
  simp [strokes]

/-- A chord asks for its strokes. -/
theorem kinds_chordUnder (target : KeyCode) (modifiers : List KeyCode) (mask : Mask) :
    (chordUnder target modifiers mask).1.map Event.kind =
      (strokes modifiers target).map Stroke.kind := by
  induction modifiers generalizing mask with
  | nil => rfl
  | cons k modifiers ih =>
    rw [strokes_cons, chordUnder, List.cons_append, List.cons_append, List.map_cons, List.map_cons,
      List.map_append, List.map_append, ih]
    rfl

theorem kinds_chord (modifiers : List KeyCode) (target : KeyCode) :
    (chord modifiers target).map Event.kind = (strokes modifiers target).map Stroke.kind :=
  kinds_chordUnder target modifiers .empty

theorem length_strokes_down (modifiers : List KeyCode) (target : KeyCode) :
    ((modifiers ++ [target]).map (Stroke.mk · false)).length = modifiers.length + 1 := by
  simp

/-- The first half of a chord goes down. -/
theorem take_strokes (modifiers : List KeyCode) (target : KeyCode) :
    (strokes modifiers target).take (modifiers.length + 1) =
      (modifiers ++ [target]).map (Stroke.mk · false) :=
  List.take_left' (length_strokes_down modifiers target)

theorem length_strokes (modifiers : List KeyCode) (target : KeyCode) :
    (strokes modifiers target).length = 2 * modifiers.length + 2 := by
  simp [strokes]
  omega

/-- The keys of a chord go down in order. -/
theorem getElem?_strokes_down (modifiers : List KeyCode) (target : KeyCode) {i : Nat}
    (h : i ≤ modifiers.length) :
    (strokes modifiers target)[i]? = (modifiers ++ [target])[i]?.map (Stroke.mk · false) := by
  unfold strokes
  rw [List.getElem?_append_left, List.getElem?_map]
  rw [length_strokes_down]
  omega

/-- The keys of a chord go up in the reverse order, each at the mirrored place. -/
theorem getElem?_strokes_up (modifiers : List KeyCode) (target : KeyCode) {i : Nat}
    (h : i ≤ modifiers.length) :
    (strokes modifiers target)[2 * modifiers.length + 1 - i]? =
      (modifiers ++ [target])[i]?.map (Stroke.mk · true) := by
  have second : 2 * modifiers.length + 1 - i - (modifiers.length + 1) = modifiers.length - i := by
    omega
  have length : (modifiers ++ [target]).length = modifiers.length + 1 := by simp
  unfold strokes
  rw [List.getElem?_append_right, length_strokes_down, second, List.getElem?_map,
    List.getElem?_reverse]
  · congr 3
    omega
  · omega
  · rw [length_strokes_down]
    omega

/-- The press of the target comes after those of the modifiers. -/
theorem getElem?_strokes (modifiers : List KeyCode) (target : KeyCode) :
    (strokes modifiers target)[modifiers.length]? = some ⟨target, false⟩ := by
  simp [strokes]

theorem key_mem_of_mem_strokes {modifiers : List KeyCode} {target : KeyCode} {s : Stroke}
    (h : s ∈ strokes modifiers target) : s.key ∈ target :: modifiers := by
  rcases List.mem_append.1 h with down | up
  · obtain ⟨k, listed, rfl⟩ := List.mem_map.1 down
    simpa [or_comm] using listed
  · obtain ⟨k, listed, rfl⟩ := List.mem_map.1 up
    simpa [or_comm] using listed

/-- How often a bit is listed in a chord tells whether it is listed. -/
theorem countP_pos_iff_listed (modifiers : List KeyCode) (target : KeyCode) (i : Fin 16) :
    0 < ((modifiers ++ [target]).countP fun k => k.bit? = some i) ↔
      ∃ k ∈ target :: modifiers, k.bit? = some i := by
  rw [List.countP_pos_iff]
  simp [or_comm]

end Gesture

section Posting

variable (desktop : Desktop) (extendedKeys : List KeyCode) (moving : Bool)

/-- A stroke is posted as one record. -/
theorem records_of_stroke {e : Event} {s : Stroke} (asked : e.kind = s.kind)
    (defined : s.key ≠ .undefined) :
    ∃ r, (standardPoster desktop extendedKeys).records e moving = .ok [.key r] ∧
      s.RecordedAs r := by
  obtain ⟨time, mask, kind⟩ := e
  obtain rfl : kind = s.kind := asked
  obtain ⟨vk, mapped⟩ := (KeyCode.undefined_or_toVirtual? s.key).resolve_left defined
  refine ⟨⟨vk, s.up, mask.meets Mask.shift && s.key ∈ extendedKeys⟩, ?_, mapped, rfl⟩
  unfold Stroke.kind
  rw [records_keyAction, keyRecord_of_toVirtual? desktop extendedKeys mapped]
  rfl

/-- Strokes are posted one record each. -/
theorem built_of_strokes {events : List Event} {strokes : List Stroke}
    (asked : events.map Event.kind = strokes.map Stroke.kind)
    (defined : ∀ s ∈ strokes, s.key ≠ .undefined) :
    ∃ rs : List KeyRecord, List.Forall₂ Stroke.RecordedAs strokes rs ∧
      (∀ e ∈ events, (standardPoster desktop extendedKeys).outcome e moving = .ok ()) ∧
      (events.flatMap fun e => (standardPoster desktop extendedKeys).built e moving) =
        rs.map Record.key := by
  induction strokes generalizing events with
  | nil =>
    obtain rfl := List.map_eq_nil_iff.1 asked
    exact ⟨[], .nil, by simp, rfl⟩
  | cons s strokes ih =>
    obtain ⟨e, events, rfl, first, later⟩ := List.map_eq_cons_iff.1 asked
    obtain ⟨r, posted, recorded⟩ := records_of_stroke desktop extendedKeys moving first
      (defined s List.mem_cons_self)
    obtain ⟨rs, all, outcomes, built⟩ := ih later fun s' h => defined s' (List.mem_cons_of_mem _ h)
    have own : (standardPoster desktop extendedKeys).outcome e moving = .ok () := by
      unfold Poster.outcome
      rw [posted]
      rfl
    have made : (standardPoster desktop extendedKeys).built e moving = [.key r] := by
      unfold Poster.built
      rw [posted]
    refine ⟨r :: rs, .cons recorded all, List.forall_mem_cons.2 ⟨own, outcomes⟩, ?_⟩
    rw [List.flatMap_cons, made, built]
    rfl

end Posting

section Capturing

variable {strokes : List Stroke} {rs : List KeyRecord} {inputs : List (Surroundings × RawInput)}

/-- A stroke turns the bit of its key when it is captured. -/
theorem turns?_of_capturedAs {s : Stroke} {r : KeyRecord} {x : Surroundings × RawInput}
    (recorded : s.RecordedAs r) (captured : r.CapturedAs x) (i : Fin 16) :
    x.2.turns? i = s.turns? i := by
  obtain ⟨time, raw⟩ := captured
  obtain ⟨mapped, direction⟩ := recorded
  have own := KeyCode.isTurnedBy_iff_of_toVirtual? mapped i
  have turned : (r.raw time).turns? i =
      if Mask.isTurnedBy i r.key then some (!r.up) else none := by
    unfold KeyRecord.raw
    cases r.up <;> rfl
  rw [raw, turned, direction]
  unfold Stroke.turns?
  simp only [own]

theorem turns_of_capturedAs (recorded : List.Forall₂ Stroke.RecordedAs strokes rs)
    (captured : List.Forall₂ KeyRecord.CapturedAs rs inputs) (i : Fin 16) :
    turns i inputs = strokes.filterMap (Stroke.turns? i) := by
  unfold turns
  induction recorded generalizing inputs with
  | nil =>
    cases captured
    rfl
  | cons first _ ih =>
    cases captured with
    | cons own later =>
      rw [List.filterMap_cons, List.filterMap_cons, turns?_of_capturedAs first own i, ih later]

/-- Keys that all go the same way turn a bit as often as they have it. -/
theorem filterMap_turns? (keys : List KeyCode) (up : Bool) (i : Fin 16) :
    (keys.map (Stroke.mk · up)).filterMap (Stroke.turns? i) =
      List.replicate (keys.countP fun k => k.bit? = some i) (!up) := by
  induction keys with
  | nil => rfl
  | cons k keys ih =>
    rw [List.map_cons, List.filterMap_cons, ih]
    by_cases own : k.bit? = some i
    · simp [Stroke.turns?, own, List.replicate_succ]
    · simp [Stroke.turns?, own]

/-- Along a chord a bit goes down as often as it is listed, and then up as often. -/
theorem filterMap_turns?_strokes (modifiers : List KeyCode) (target : KeyCode) (i : Fin 16) :
    (Gesture.strokes modifiers target).filterMap (Stroke.turns? i) =
      List.replicate ((modifiers ++ [target]).countP fun k => k.bit? = some i) true ++
        List.replicate ((modifiers ++ [target]).countP fun k => k.bit? = some i) false := by
  unfold Gesture.strokes
  rw [List.filterMap_append, filterMap_turns?, filterMap_turns?, List.countP_reverse]
  rfl

end Capturing

section Captured

variable {σ : Type} {n : Normalizer σ} {modifiers : List KeyCode} {target : KeyCode}
  {rs : List KeyRecord} {inputs : List (Surroundings × RawInput)} (idle : n.held = .empty)
  (recorded : List.Forall₂ Stroke.RecordedAs (Gesture.strokes modifiers target) rs)
  (captured : List.Forall₂ KeyRecord.CapturedAs rs inputs)

include idle recorded captured

/-- After a chord nothing is held. -/
theorem held_final_of_chord : (Run.final Normalizer.onInput n inputs).held = .empty := by
  apply Mask.ext_bits
  intro i
  rw [Normalizer.has_final, turns_of_capturedAs recorded captured, filterMap_turns?_strokes, idle,
    Mask.has_empty, List.getLast?_append, List.getLast?_replicate, List.getLast?_replicate]
  split <;> rfl

/-- Once all its keys are down, a chord holds the bits of its keys and no others. -/
theorem held_take_of_chord (i : Fin 16) :
    (Run.final Normalizer.onInput n (inputs.take (modifiers.length + 1))).held.has i = true ↔
      ∃ k ∈ target :: modifiers, k.bit? = some i := by
  have down := List.forall₂_take (modifiers.length + 1) recorded
  rw [Gesture.take_strokes] at down
  have turned : turns i (inputs.take (modifiers.length + 1)) =
      List.replicate ((modifiers ++ [target]).countP fun k => k.bit? = some i) true := by
    rw [turns_of_capturedAs down (List.forall₂_take _ captured), filterMap_turns?]
    rfl
  rw [Normalizer.has_final, turned, idle, Mask.has_empty, List.getLast?_replicate,
    ← Gesture.countP_pos_iff_listed]
  split
  · next none => simp [none]
  · next some => simpa using Nat.pos_of_ne_zero some

/-- A lock is turned over once in a chord that lists it, however often. -/
theorem rises_of_chord (i : Fin 16) :
    rises (n.held.has i) (turns i inputs) =
      if ∃ k ∈ target :: modifiers, k.bit? = some i then 1 else 0 := by
  have often := Gesture.countP_pos_iff_listed modifiers target i
  rw [turns_of_capturedAs recorded captured, filterMap_turns?_strokes, rises_down_up, idle,
    Mask.has_empty]
  -- All presses of a chord come before its releases, so the bit rises once if it is pressed at all.
  by_cases listed : ∃ k ∈ target :: modifiers, k.bit? = some i
  · have pressed := often.2 listed
    rw [if_pos listed, if_neg]
    rintro (held | none)
    · cases held
    · omega
  · have none : _ = 0 := Nat.eq_zero_of_not_pos (mt often.1 listed)
    rw [if_neg listed, if_pos (.inr none)]

end Captured

/-- **A posted chord leaves no key held.** With the standard layout, whatever keys are posted as
extended ones, on an injector that accepts everything: every event of a chord of defined keys is
posted, and the injector takes in one key record for each stroke. However these records are captured
again, in any surroundings, by whatever normalizer that holds nothing: in the end nothing is held
again; a lock is turned over once if its key is in the chord, whether it is listed once or many
times, and else not at all; and when the press of the target has been handled, the held bits are
those of the keys of the chord. -/
theorem chord_leaves_no_key_held {σ τ : Type} (desktop : Desktop) (extendedKeys : List KeyCode)
    (moving : Bool) (modifiers : List KeyCode) (target : KeyCode)
    (defined : ∀ k ∈ target :: modifiers, k ≠ .undefined) (i : Injector τ)
    (accepts : i.AcceptsAll) (n : Normalizer σ) (idle : n.held = .empty) :
    let poster : Poster := { layout := .standard, desktop, extendedKeys }
    let events := Gesture.chord modifiers target
    ∃ rs : List KeyRecord, List.Forall₂ Stroke.RecordedAs (Gesture.strokes modifiers target) rs ∧
      (Gesture.strokes modifiers target)[modifiers.length]? = some ⟨target, false⟩ ∧
      (∀ st ∈ Run.steps (poster.onEvent moving) i events, st.output = .ok ()) ∧
      Run.final (poster.onEvent moving) i events = i.fed (rs.map .key) ∧
      (Run.final (poster.onEvent moving) (Injector.limited none) events).state = rs.map .key ∧
      ∀ inputs, List.Forall₂ KeyRecord.CapturedAs rs inputs →
        let steps := Run.steps Normalizer.onInput n inputs
        let final := Run.final Normalizer.onInput n inputs
        let pressed := Run.final Normalizer.onInput n (inputs.take (modifiers.length + 1))
        final.held = .empty ∧
          (∀ b ∈ lockBits, (∃ k ∈ target :: modifiers, k.bit? = some b) →
            steps.countP (Normalizer.turnsOver b) = 1 ∧
              final.toggled.has b = !n.toggled.has b) ∧
          (∀ b ∈ lockBits, ¬ (∃ k ∈ target :: modifiers, k.bit? = some b) →
            steps.countP (Normalizer.turnsOver b) = 0 ∧
              final.toggled.has b = n.toggled.has b) ∧
          ∀ b : Fin 16,
            pressed.held.has b = true ↔ ∃ k ∈ target :: modifiers, k.bit? = some b := by
  intro poster events
  have strokesDefined : ∀ s ∈ Gesture.strokes modifiers target, s.key ≠ .undefined :=
    fun s h => defined _ (Gesture.key_mem_of_mem_strokes h)
  obtain ⟨rs, recorded, outcomes, built⟩ := built_of_strokes desktop extendedKeys moving
    (Gesture.kinds_chord modifiers target) strokesDefined
  refine ⟨rs, recorded, Gesture.getElem?_strokes modifiers target, ?_, ?_, ?_, ?_⟩
  · intro st hst
    have answers := Poster.outputs_onEvent poster moving accepts events
    have answered : st.output ∈ events.map fun e => poster.outcome e moving := by
      rw [← answers]
      exact List.mem_map_of_mem hst
    obtain ⟨e, he, same⟩ := List.mem_map.1 answered
    rw [← same]
    exact outcomes e he
  · rw [Poster.final_onEvent poster moving accepts, built]
  · rw [Poster.final_onEvent poster moving Injector.acceptsAll_limited, built,
      Injector.state_fed_limited]
  · intro inputs captured steps final pressed
    refine ⟨held_final_of_chord idle recorded captured, ?_, ?_,
      held_take_of_chord idle recorded captured⟩
    · intro b lock listed
      have once := rises_of_chord idle recorded captured b
      rw [if_pos listed] at once
      constructor
      · rw [Normalizer.countP_turnsOver n inputs b lock, once]
      · rw [Normalizer.toggled_final_of_lock n inputs b lock, once]
        simp
    · intro b lock unlisted
      have never := rises_of_chord idle recorded captured b
      rw [if_neg unlisted] at never
      constructor
      · rw [Normalizer.countP_turnsOver n inputs b lock, never]
      · rw [Normalizer.toggled_final_of_lock n inputs b lock, never]
        simp

/-- The strokes of left shift, caps lock, left shift and again caps lock as the target, where caps
lock is posted as an extended key under shift. -/
def shiftedCapsLock : List KeyRecord :=
  [⟨VirtualKey.leftShift, false, false⟩, ⟨VirtualKey.capsLock, false, true⟩,
    ⟨VirtualKey.leftShift, false, false⟩, ⟨VirtualKey.capsLock, false, true⟩,
    ⟨VirtualKey.capsLock, true, true⟩, ⟨VirtualKey.leftShift, true, false⟩,
    ⟨VirtualKey.capsLock, true, false⟩, ⟨VirtualKey.leftShift, true, false⟩]

/-- Caps lock is switched once, although it is held and tapped, and shift is up in the end, although
it is pressed twice. -/
theorem shifted_caps_lock_leaves_no_key_held :
    let held : List KeyCode := [.shiftLeft, .capsLock, .shiftLeft]
    let poster : Poster := { extendedKeys := [.capsLock] }
    let n : Normalizer Unit := { dispatcher := .register .passing }
    let inputs := shiftedCapsLock.map fun r => (({} : Surroundings), r.raw 1)
    (∀ k ∈ KeyCode.capsLock :: held, k ≠ .undefined) ∧ (Injector.limited none).AcceptsAll ∧
      n.held = .empty ∧ List.Forall₂ KeyRecord.CapturedAs shiftedCapsLock inputs ∧
      (Run.final (poster.onEvent true) (Injector.limited none)
        (Gesture.chord held .capsLock)).state = shiftedCapsLock.map .key ∧
      (Run.final Normalizer.onInput n inputs).held = .empty ∧
      (Run.steps Normalizer.onInput n inputs).countP (Normalizer.turnsOver 14) = 1 := by
  intro held poster n inputs
  have defined : ∀ k ∈ KeyCode.capsLock :: held, k ≠ .undefined := by decide
  have idle : n.held = .empty := by decide
  have posted : (Run.final (poster.onEvent true) (Injector.limited none)
      (Gesture.chord held .capsLock)).state = shiftedCapsLock.map .key := by decide +kernel
  have captured : List.Forall₂ KeyRecord.CapturedAs shiftedCapsLock inputs :=
    List.forall₂_map_right_iff.2 (List.forall₂_same.2 fun r _ => ⟨1, rfl⟩)
  obtain ⟨rs, -, -, -, -, state, run⟩ := chord_leaves_no_key_held .single [.capsLock] true held
    .capsLock defined (Injector.limited none) Injector.acceptsAll_limited n idle
  have same : rs = shiftedCapsLock :=
    List.map_injective_iff.2 (fun _ _ h => Record.key.inj h) (state.symm.trans posted)
  obtain ⟨up, switched, -, -⟩ := run inputs (same ▸ captured)
  have listed : ∃ k ∈ KeyCode.capsLock :: held, k.bit? = some 14 :=
    ⟨.capsLock, List.mem_cons_self, rfl⟩
  exact ⟨defined, Injector.acceptsAll_limited, idle, captured, posted, up,
    (switched 14 (by decide) listed).1⟩

end InputTap.Post
