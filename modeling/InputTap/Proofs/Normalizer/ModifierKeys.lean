import InputTap.Proofs.Key.Places
import InputTap.Proofs.Normalizer.Events
import InputTap.Proofs.Normalizer.HeldBits

/-!
# Modifier keys in their own events

The event of a modifier key names the key by its place and shows the held keys in its mask. The
place comes from the layout, the mask from the table of tracked keys. For most virtual keys the two
tables agree, so that a press shows the bit of the key that it names and a release does not. They
disagree on the generic shift, control and alt keys, whose place is that of one side while the mask
does not follow them: what their events show of that side's bit is what the history has left
(`own_bit_shown_iff`).
-/

set_option autoImplicit false

namespace InputTap

open Mask (keyOf isTurnedBy)

/-- The virtual keys that stand for either side of the keyboard. -/
def VirtualKey.generic : List VirtualKey := [VirtualKey.shift, VirtualKey.control, VirtualKey.alt]

namespace KeyCode

/-- A virtual key that is listed at the place of a modifier turns the bit of that modifier. -/
theorem isTurnedBy_of_mem : ∀ p ∈ placedKeys, ∀ i, p.2.bit? = some i → isTurnedBy i p.1 := by
  decide +kernel

theorem bit?_of_mem : ∀ p ∈ placedKeys, ∀ i, isTurnedBy i p.1 → p.2.bit? = some i := by
  decide +kernel

/-- A key is sent as a virtual key that turns its own bit and no other. -/
theorem isTurnedBy_iff_of_toVirtual? {k : KeyCode} {vk : VirtualKey} (h : k.toVirtual? = some vk)
    (i : Fin 16) : isTurnedBy i vk ↔ k.bit? = some i := by
  rcases mem_of_toVirtual? h with ⟨rfl, rfl⟩ | ⟨-, listed⟩
  · have untracked : ∀ i, ¬ isTurnedBy i VirtualKey.enter := by decide
    exact iff_of_false (untracked i) (Option.some_ne_none i).symm
  · exact ⟨bit?_of_mem _ listed i, isTurnedBy_of_mem _ listed i⟩

/-- A generic key turns no bit. -/
theorem not_isTurnedBy_generic : ∀ vk ∈ VirtualKey.generic, ∀ i, ¬ isTurnedBy i vk := by
  intro vk h
  have listed : vk = .shift ∨ vk = .control ∨ vk = .alt := by
    simpa [VirtualKey.generic] using h
  rcases listed with rfl | rfl | rfl <;> decide

/-- A virtual key at the place of a modifier turns its bit, unless the key is generic. -/
theorem isTurnedBy_ofVirtual {vk : VirtualKey} {extended : Bool} {i : Fin 16}
    (h : (ofVirtual vk extended).bit? = some i) (sided : vk ∉ VirtualKey.generic) :
    isTurnedBy i vk := by
  have notShift : vk ≠ VirtualKey.shift := by
    rintro rfl
    exact sided (by decide)
  have notControl : vk ≠ VirtualKey.control := by
    rintro rfl
    exact sided (by decide)
  have notAlt : vk ≠ VirtualKey.alt := by
    rintro rfl
    exact sided (by decide)
  unfold ofVirtual at h
  rw [if_neg notShift, if_neg notControl, if_neg notAlt] at h
  split at h
  · cases h
  · have defined : placed vk ≠ .undefined := by
      intro undefined
      rw [undefined] at h
      cases h
    exact isTurnedBy_of_mem _ (mem_of_placed defined) i h

end KeyCode

/-- Where an event tells of a press of a modifier key its mask has that key's bit, and where it tells
of a release it has not. -/
def Event.ShowsOwnBit (e : Event) : Prop :=
  match e.kind with
  | .key .pressed d => ∀ i, d.code.bit? = some i → e.mask.has i = true
  | .key .released d => ∀ i, d.code.bit? = some i → e.mask.has i = false
  | _ => True

/-- What happens to a key that goes down or up. -/
def KeyAction.going (down : Bool) : KeyAction := if down then .pressed else .released

theorem Event.showsOwnBit_iff {e : Event} {down : Bool} {d : KeyData}
    (h : e.kind = .key (.going down) d) :
    e.ShowsOwnBit ↔ ∀ i, d.code.bit? = some i → e.mask.has i = down := by
  unfold ShowsOwnBit
  rw [h]
  cases down <;> rfl

namespace Capture

/-- The input of a key that goes down or up. -/
def RawInput.ofKey (down : Bool) (vk : VirtualKey) (extended : Bool) (time : Millis) : RawInput :=
  if down then .keyDown vk extended time else .keyUp vk extended time

theorem RawInput.turns_ofKey (down : Bool) (vk : VirtualKey) (extended : Bool) (time : Millis)
    (i : Fin 16) :
    (RawInput.ofKey down vk extended time).turns? i =
      if isTurnedBy i vk then some down else none := by
  cases down <;> rfl

namespace Normalizer

variable {σ : Type}

/-- What a normalizer is told: an input, or that the held keys are to be read anew. -/
inductive Call
  | input (raw : RawInput)
  | reread
deriving DecidableEq, Inhabited

/-- Answers a call in its surroundings. -/
def onCall (n : Normalizer σ) (x : Surroundings × Call) : Normalizer σ × Trace :=
  match x.2 with
  | .input raw => n.onInput (x.1, raw)
  | .reread => (n.reread x.1.system, [])

/-- How a call turns a bit, if it does. -/
def turns? (i : Fin 16) (x : Surroundings × Call) : Option Bool :=
  match x.2 with
  | .input raw => raw.turns? i
  | .reread => some (x.1.system.isDown (keyOf i))

theorem has_onCall (n : Normalizer σ) (x : Surroundings × Call) (i : Fin 16) :
    (n.onCall x).1.held.has i = (turns? i x).getD (n.held.has i) := by
  obtain ⟨w, call⟩ := x
  cases call with
  | input raw => exact n.tracking.has_step w raw i
  | reread => exact Mask.has_collect_trackedKeys w.system.isDown i

/-- The way in which a history turned a bit last; a bit that was never turned is up. -/
def lastTurn (i : Fin 16) (calls : List (Surroundings × Call)) : Bool :=
  (calls.filterMap (turns? i)).getLast?.getD false

theorem has_final_onCall (d : Dispatcher σ) (calls : List (Surroundings × Call)) (i : Fin 16) :
    (Run.final onCall { dispatcher := d } calls).held.has i = lastTurn i calls := by
  have start : ({ dispatcher := d } : Normalizer σ).held.has i = false := Mask.has_empty i
  have last := Run.view_final_of_input (f := onCall) (fun n : Normalizer σ => n.held.has i)
    (turns? i) (fun n x => has_onCall n x i) { dispatcher := d } calls
  rw [last, start]
  rfl

/-- A normalizer with a consumer keeps one. -/
theorem registered_final_onCall (c : Consumer σ) (calls : List (Surroundings × Call)) :
    ∃ c', (Run.final onCall { dispatcher := .register c } calls).dispatcher = .register c' := by
  refine Run.final_of_invariant (f := onCall)
    (fun n : Normalizer σ => ∃ c', n.dispatcher = .register c') ?_ ⟨c, rfl⟩ calls
  rintro n ⟨w, call⟩ ⟨c', hc⟩
  cases call with
  | input raw => exact ⟨_, dispatcher_onInput_register hc (w, raw)⟩
  | reread => exact ⟨c', hc⟩

/-- The input of a key makes the consumer hear of the key first. -/
theorem head?_events_ofKey {n : Normalizer σ} {c : Consumer σ} (h : n.dispatcher = .register c)
    (w : Surroundings) (down : Bool) (vk : VirtualKey) (extended : Bool) (time : Millis) :
    (n.onInput (w, .ofKey down vk extended time)).2.events.head? =
      some ⟨w.stamp time, (n.onInput (w, .ofKey down vk extended time)).1.held,
        .key (.going down) { code := w.layout.place vk extended, rawCode := vk }⟩ := by
  rw [trace_onInput, h, Dispatcher.events_deliver_register, Tracking.received_step]
  cases down <;> rfl

/-- **Place and mask agree on modifier keys, but for the generic ones.** After any history of inputs
and rereadings, and with any consumer, a key that goes down or up is told of with its place. Where
that is the place of a modifier or a lock, the mask of the event has the key's own bit as the input
leaves the key, except for a generic key, with which it has the bit as the history has left it. So
the event of a generic key agrees with its mask exactly if the history left the bit that way. -/
theorem own_bit_shown_iff (c : Consumer σ) (calls : List (Surroundings × Call)) (w : Surroundings)
    (down : Bool) (vk : VirtualKey) (extended : Bool) (time : Millis) :
    let before := Run.final onCall { dispatcher := .register c } calls
    let input := ({ w with layout := .standard }, RawInput.ofKey down vk extended time)
    let code := KeyCode.ofVirtual vk extended
    ∃ e : Event, (before.onInput input).2.events.head? = some e ∧
      e.kind = .key (.going down) { code, rawCode := vk } ∧
      (∀ i, code.bit? = some i →
        e.mask.has i = if vk ∈ VirtualKey.generic then lastTurn i calls else down) ∧
      (e.ShowsOwnBit ↔
        (vk ∈ VirtualKey.generic → ∀ i, code.bit? = some i → lastTurn i calls = down)) := by
  intro before input code
  obtain ⟨c', registered⟩ := registered_final_onCall c calls
  have shown : ∀ i, code.bit? = some i → (before.onInput input).1.held.has i =
      if vk ∈ VirtualKey.generic then lastTurn i calls else down := by
    intro i own
    have turned : (before.onInput input).1.held.has i =
        ((RawInput.ofKey down vk extended time).turns? i).getD (before.held.has i) :=
      before.tracking.has_step _ _ i
    rw [turned, RawInput.turns_ofKey, has_final_onCall]
    by_cases generic : vk ∈ VirtualKey.generic
    · rw [if_neg (KeyCode.not_isTurnedBy_generic vk generic i), if_pos generic]
      rfl
    · rw [if_pos (KeyCode.isTurnedBy_ofVirtual own generic), if_neg generic]
      rfl
  refine ⟨_, head?_events_ofKey registered _ down vk extended time, rfl, shown, ?_⟩
  rw [Event.showsOwnBit_iff rfl]
  constructor
  · intro agrees generic i own
    have bit := shown i own
    rw [if_pos generic] at bit
    rw [← bit]
    exact agrees i own
  · intro left i own
    refine (shown i own).trans ?_
    split
    · next generic => exact left generic i own
    · rfl

/-- The generic shift key is told of as the left one, whose bit its press does not show. -/
theorem generic_shift_hides_own_bit :
    ∃ e ∈ (onInput { dispatcher := .register .passing }
        ({}, .keyDown VirtualKey.shift false 1)).2.events,
      e.kind = .key .pressed { code := .shiftLeft, rawCode := VirtualKey.shift } ∧
        ¬ e.ShowsOwnBit := by
  refine ⟨⟨1, .empty, .key .pressed { code := .shiftLeft, rawCode := VirtualKey.shift }⟩, ?_, rfl, ?_⟩
  · decide
  · intro shows
    exact absurd (shows 0 rfl) (by decide)

end Normalizer

end Capture

end InputTap
