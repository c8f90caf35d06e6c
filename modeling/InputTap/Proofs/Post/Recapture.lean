import InputTap.Proofs.Normalizer.Events
import InputTap.Proofs.Post.Records

/-!
# Capturing what was posted

A key that is posted with the standard layout and the default extended keys, and then captured with
the standard layout, is reported as the key that was asked for. The only exception is the enter key
of the number pad: its record lacks the extended flag, without which the virtual key is that of the
main enter key (`place_of_default`).
-/

set_option autoImplicit false

namespace InputTap.Post

open Capture

/-- A key record as the desktop reports it back. -/
def KeyRecord.raw (r : KeyRecord) (time : Millis) : RawInput :=
  if r.up then .keyUp r.key r.extended time else .keyDown r.key r.extended time

/-- Capturing a key record reports its key first, whoever listens. -/
theorem head?_events_raw {σ : Type} (n : Normalizer σ) {c : Consumer σ}
    (hc : n.dispatcher = .register c) (w : Surroundings) (r : KeyRecord) (time : Millis) :
    (n.onInput (w, r.raw time)).2.events.head?.map Event.kind =
      some (.key (keyAction r.up)
        { code := w.layout.place r.key r.extended, rawCode := r.key }) := by
  obtain ⟨key, up, extended⟩ := r
  rw [Normalizer.trace_onInput, hc, Dispatcher.events_deliver_register, Tracking.received_step]
  cases up <;> rfl

/-- No key that is posted with the extended flag shares its virtual key with the keypad's enter
key. -/
theorem not_enter_of_mem_defaultExtendedKeys :
    ∀ k ∈ defaultExtendedKeys, k.toVirtual? ≠ some VirtualKey.enter := by
  decide

/-- The place that a posted key is found at again. -/
theorem place_of_default {code : KeyCode} {vk : VirtualKey} (h : code.toVirtual? = some vk)
    (mask : Mask) :
    Layout.standard.place vk (mask.meets Mask.shift && code ∈ defaultExtendedKeys) =
      if code = .numpadEnter then .enter else code := by
  refine KeyCode.ofVirtual_of_toVirtual? h ?_
  rintro rfl
  have unlisted : code ∉ defaultExtendedKeys := fun listed =>
    not_enter_of_mem_defaultExtendedKeys code listed h
  rw [decide_eq_false unlisted, Bool.and_false]

/-- **A posted key is the key that was asked for, but for the keypad's enter key.** Under every mask
a key is refused if it is undefined. Otherwise it is posted as one record, going the way that was
asked for, and the place of that record is the key's own exactly if it is not the keypad's enter
key, which becomes the main one. Captured again, the record is reported as a key at that place. -/
theorem posted_key_recaptured {σ : Type} (desktop : Desktop) (time : Millis) (mask : Mask)
    (up : Bool) (d : KeyData) (moving : Bool) (t : Tracking) (w : Surroundings) (c : Consumer σ)
    (later : Millis) :
    let poster : Poster := { layout := .standard, desktop, extendedKeys := defaultExtendedKeys }
    let e : Event := ⟨time, mask, .key (keyAction up) d⟩
    d.code = .undefined ∧ poster.records e moving = .error (.unmappedKey .undefined) ∨
      d.code ≠ .undefined ∧ ∃ r : KeyRecord, r.up = up ∧ poster.records e moving = .ok [.key r] ∧
        (Layout.standard.place r.key r.extended = d.code ↔ d.code ≠ .numpadEnter) ∧
        Layout.standard.place r.key r.extended =
          (if d.code = .numpadEnter then .enter else d.code) ∧
        (Normalizer.onInput { tracking := t, dispatcher := .register c }
            ({ w with layout := .standard }, r.raw later)).2.events.head?.map Event.kind =
          some (.key (keyAction up)
            { code := Layout.standard.place r.key r.extended, rawCode := r.key }) := by
  intro poster e
  rcases KeyCode.undefined_or_toVirtual? d.code with undefined | ⟨vk, mapped⟩
  · refine .inl ⟨undefined, ?_⟩
    rw [records_keyAction, undefined, keyRecord_undefined]
    rfl
  · have defined : d.code ≠ .undefined := fun h => by
      rw [h] at mapped
      cases mapped
    have place := place_of_default mapped mask
    refine .inr ⟨defined, ⟨vk, up, mask.meets Mask.shift && d.code ∈ defaultExtendedKeys⟩, rfl,
      ?_, ?_, ?_, ?_⟩
    · rw [records_keyAction, keyRecord_of_toVirtual? desktop defaultExtendedKeys mapped]
      rfl
    · rw [place]
      constructor
      · intro own keypad
        rw [if_pos keypad, keypad] at own
        cases own
      · exact fun other => if_neg other
    · exact place
    · exact head?_events_raw _ rfl _ _ later

/-- The keypad's enter key is posted as the record of the main one. -/
theorem keypad_enter_not_recaptured :
    ∃ r : KeyRecord,
      ({} : Poster).records ⟨0, .empty, .key .pressed { code := .numpadEnter, rawCode := 0 }⟩ true =
          .ok [.key r] ∧
        Layout.standard.place r.key r.extended ≠ .numpadEnter :=
  ⟨⟨VirtualKey.enter, false, false⟩, rfl, by decide⟩

end InputTap.Post
