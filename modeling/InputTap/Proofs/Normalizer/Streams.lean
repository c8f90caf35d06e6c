import InputTap.Proofs.Interleaving
import InputTap.Proofs.Key.Typed
import InputTap.Proofs.Normalizer.Events
import InputTap.Proofs.Normalizer.Locks

/-!
# Keyboard and pointer do not interfere

Keyboard and pointer share one mask of held bits. Keyboard input reads and writes the bits outside
the buttons and the locks (`SameKeyboard`), pointer input the bits of the buttons and the click run
(`SamePointer`), and between them these are all of a tracking. So each input keeps one of the two
and moves the other by itself alone, and what is heard of the keyboard, the buttons taken out of the
masks, is what is heard of it without the pointer, and the other way round.
-/

set_option autoImplicit false

namespace InputTap

open Mask (buttonBits)

namespace Event

/-- The event is one of the keyboard. -/
def isKey (e : Event) : Bool :=
  match e.kind with
  | .key .. => true
  | _ => false

/-- The event is one of the pointer: of a button, of motion or of the wheel. -/
def isPointer (e : Event) : Bool :=
  match e.kind with
  | .mouse .. | .wheel _ => true
  | _ => false

/-- The event with the buttons taken out of its mask. -/
def besideButtons (e : Event) : Event := { e with mask := e.mask \ Mask.buttons }

/-- The event with nothing but the buttons left in its mask. -/
def underButtons (e : Event) : Event := { e with mask := e.mask &&& Mask.buttons }

/-- What there is of the keyboard, without the buttons in the masks. -/
def ofKeyboard (es : List Event) : List Event := (es.filter isKey).map besideButtons

/-- What there is of the pointer, with only the buttons in the masks. -/
def ofPointer (es : List Event) : List Event := (es.filter isPointer).map underButtons

end Event

namespace Capture

namespace RawInput

/-- The input is a key going down or up. -/
def isKey : RawInput → Bool
  | .keyDown .. | .keyUp .. => true
  | _ => false

/-- The input is a button going down or up, motion or a wheel notch. -/
def isPointer : RawInput → Bool
  | .buttonDown .. | .buttonUp .. | .motion .. | .wheel .. => true
  | _ => false

/-- Keys turn no bit of a button: the virtual keys of the buttons do not count as keys. -/
theorem turns_of_isKey {raw : RawInput} (key : raw.isKey = true) {i : Fin 16}
    (hi : i ∈ buttonBits) : raw.turns? i = none := by
  have pointer : ∀ i ∈ buttonBits, Mask.keyOf i ∈ Mask.pointerKeys := by decide
  have unturned : ∀ vk, ¬ Mask.isTurnedBy i vk := by
    rintro vk ⟨apart, rfl⟩
    exact apart (pointer i hi)
  cases raw with
  | keyDown vk extended time => exact if_neg (unturned vk)
  | keyUp vk extended time => exact if_neg (unturned vk)
  | _ => cases key

end RawInput

theorem RawButton.mem_buttonBits {b : RawButton} {i : Fin 16} (h : b.bit? = some i) :
    i ∈ buttonBits := by
  cases b with
  | left => obtain rfl := Option.some.inj h; decide
  | right => obtain rfl := Option.some.inj h; decide
  | middle => obtain rfl := Option.some.inj h; decide
  | indexed n =>
    have indexed : (if n = 0 ∨ n = 1 then some 11 else if n = 2 then some 12 else none) =
        some i := h
    split at indexed
    · obtain rfl := Option.some.inj indexed
      decide
    · split at indexed
      · obtain rfl := Option.some.inj indexed
        decide
      · cases indexed

theorem RawInput.not_isKey_of_isPointer {raw : RawInput} (pointer : raw.isPointer = true) :
    raw.isKey = false := by
  cases raw with
  | keyDown vk extended time => cases pointer
  | keyUp vk extended time => cases pointer
  | _ => rfl

theorem RawInput.not_isPointer_of_isKey {raw : RawInput} (key : raw.isKey = true) :
    raw.isPointer = false := by
  cases raw with
  | keyDown vk extended time => rfl
  | keyUp vk extended time => rfl
  | _ => cases key

/-- The pointer turns no bit but those of the buttons. -/
theorem RawInput.turns_of_isPointer {raw : RawInput} (pointer : raw.isPointer = true) {i : Fin 16}
    (hi : i ∉ buttonBits) : raw.turns? i = none := by
  cases raw with
  | buttonDown b p time => exact if_neg fun own => hi (RawButton.mem_buttonBits own)
  | buttonUp b p time => exact if_neg fun own => hi (RawButton.mem_buttonBits own)
  | motion p time => rfl
  | wheel axis delta p time => rfl
  | _ => cases pointer

namespace Tracking

/-- Two trackings agree on all that the keyboard reads and writes. -/
structure SameKeyboard (t u : Tracking) : Prop where
  held : ∀ i : Fin 16, i ∉ buttonBits → t.keys.held.has i = u.keys.held.has i
  toggled : t.keys.toggled = u.keys.toggled

/-- Two trackings agree on all that the pointer reads and writes. -/
structure SamePointer (t u : Tracking) : Prop where
  held : ∀ i ∈ buttonBits, t.keys.held.has i = u.keys.held.has i
  clicks : t.clicks = u.clicks

theorem SameKeyboard.refl (t : Tracking) : SameKeyboard t t := ⟨fun _ _ => rfl, rfl⟩

theorem SamePointer.refl (t : Tracking) : SamePointer t t := ⟨fun _ _ => rfl, rfl⟩

theorem SameKeyboard.trans {t u v : Tracking} (h : SameKeyboard t u) (h' : SameKeyboard u v) :
    SameKeyboard t v :=
  ⟨fun i hi => (h.held i hi).trans (h'.held i hi), h.toggled.trans h'.toggled⟩

theorem SamePointer.trans {t u v : Tracking} (h : SamePointer t u) (h' : SamePointer u v) :
    SamePointer t v :=
  ⟨fun i hi => (h.held i hi).trans (h'.held i hi), h.clicks.trans h'.clicks⟩

theorem SameKeyboard.symm {t u : Tracking} (h : SameKeyboard t u) : SameKeyboard u t :=
  ⟨fun i hi => (h.held i hi).symm, h.toggled.symm⟩

theorem SamePointer.symm {t u : Tracking} (h : SamePointer t u) : SamePointer u t :=
  ⟨fun i hi => (h.held i hi).symm, h.clicks.symm⟩

/-- There is nothing in a tracking but what the keyboard and what the pointer uses. -/
theorem eq_of_same {t u : Tracking} (keyboard : SameKeyboard t u) (pointer : SamePointer t u) :
    t = u := by
  obtain ⟨⟨held, toggled⟩, clicks⟩ := t
  obtain ⟨⟨held', toggled'⟩, clicks'⟩ := u
  obtain rfl : held = held' := by
    refine Mask.ext_bits fun i => ?_
    by_cases hi : i ∈ buttonBits
    · exact pointer.held i hi
    · exact keyboard.held i hi
  obtain rfl : toggled = toggled' := keyboard.toggled
  obtain rfl : clicks = clicks' := pointer.clicks
  rfl

section Step

variable {t u : Tracking} (w : Surroundings) {raw : RawInput}

/-- Inputs that report the same offer events that look the same, where the masks do. -/
theorem events_congr {view : Event → Event}
    (reports : t.reports (t.step w raw).1 w false raw = u.reports (u.step w raw).1 w false raw)
    (masks : ∀ time kind, view ⟨time, (t.step w raw).1.keys.held, kind⟩ =
      view ⟨time, (u.step w raw).1.keys.held, kind⟩) :
    (t.step w raw).2.events.map view = (u.step w raw).2.events.map view := by
  unfold Delivery.events
  rw [received_step, received_step, List.map_map, List.map_map]
  show (t.reports (t.step w raw).1 w false raw).map _ =
    (u.reports (u.step w raw).1 w false raw).map _
  rw [reports]
  exact List.map_congr_left fun kind _ => masks (w.stamp raw.time) kind

/-- Keyboard input makes events of the keyboard, pointer input events of the pointer. -/
theorem source_of_mem_events {e : Event} (h : e ∈ (t.step w raw).2.events) :
    e.isKey = raw.isKey ∧ e.isPointer = raw.isPointer := by
  unfold Delivery.events at h
  rw [received_step] at h
  obtain ⟨kind, reported, rfl⟩ := List.mem_map.1 h
  cases raw with
  | keyDown vk extended time =>
    rcases List.mem_cons.1 reported with rfl | typed
    · exact ⟨rfl, rfl⟩
    · obtain ⟨c, -, rfl⟩ := List.mem_map.1 typed
      exact ⟨rfl, rfl⟩
  | keyUp vk extended time =>
    obtain rfl := List.mem_singleton.1 reported
    exact ⟨rfl, rfl⟩
  | buttonDown b p time =>
    obtain rfl := List.mem_singleton.1 reported
    exact ⟨rfl, rfl⟩
  | buttonUp b p time =>
    rcases List.mem_cons.1 reported with rfl | clicked
    · exact ⟨rfl, rfl⟩
    · split at clicked
      · obtain rfl := List.mem_singleton.1 clicked
        exact ⟨rfl, rfl⟩
      · cases clicked
  | motion p time =>
    have moved : kind ∈ if t.clicks.point = some p then [] else [_] := reported
    split at moved
    · cases moved
    · obtain rfl := List.mem_singleton.1 moved
      exact ⟨rfl, rfl⟩
  | wheel axis delta p time =>
    obtain rfl := List.mem_singleton.1 reported
    exact ⟨rfl, rfl⟩
  | unrecognized message time => cases reported

/-! ### Keyboard input -/

theorem SameKeyboard.step (same : SameKeyboard t u) (raw : RawInput) :
    SameKeyboard (t.step w raw).1 (u.step w raw).1 := by
  constructor
  · intro i hi
    rw [has_step, has_step, same.held i hi]
  · refine Mask.ext_bits fun i => ?_
    have switches : t.switches i raw = u.switches i raw := by
      unfold switches
      cases lock : Mask.isLock i with
      | false => rfl
      | true =>
        have apart : ∀ i ∈ Mask.lockBits, i ∉ buttonBits := by decide
        rw [same.held i (apart i (Mask.isLock_iff.1 lock))]
    rw [has_toggled_step, has_toggled_step, same.toggled, switches]

theorem samePointer_step_key (t : Tracking) (key : raw.isKey = true) :
    SamePointer (t.step w raw).1 t := by
  constructor
  · intro i hi
    rw [has_step, RawInput.turns_of_isKey key hi, Option.getD_none]
  · cases raw with
    | keyDown vk extended time => rfl
    | keyUp vk extended time => rfl
    | _ => cases key

/-- What a press types hangs on what the keyboard uses. -/
theorem SameKeyboard.typed (same : SameKeyboard t u) (vk : VirtualKey) :
    Layout.standard.typed vk t.keys.typingMask = Layout.standard.typed vk u.keys.typingMask := by
  have bits : ∀ i : Fin 16, i ∉ buttonBits →
      t.keys.typingMask.has i = u.keys.typingMask.has i := by
    intro i hi
    rw [HeldKeys.has_typingMask, HeldKeys.has_typingMask, same.held i hi, same.toggled]
  have chord : ∀ i ∈ Mask.chordBits, i ∉ buttonBits := by decide
  have shift : ∀ i ∈ Mask.shiftBits, i ∉ buttonBits := by decide
  rw [Layout.typed_standard, Layout.typed_standard,
    Mask.hasAny_congr fun i hi => bits i (chord i hi),
    Mask.hasAny_congr fun i hi => bits i (shift i hi), bits Mask.capsLockBit (by decide)]

theorem ofKeyboard_events_key (t : Tracking) (key : raw.isKey = true) :
    Event.ofKeyboard (t.step w raw).2.events =
      (t.step w raw).2.events.map Event.besideButtons := by
  unfold Event.ofKeyboard
  rw [List.filter_eq_self.2]
  exact fun e he => (source_of_mem_events w he).1.trans key

theorem ofPointer_events_key (t : Tracking) (key : raw.isKey = true) :
    Event.ofPointer (t.step w raw).2.events = [] := by
  unfold Event.ofPointer
  rw [List.filter_eq_nil_iff.2, List.map_nil]
  intro e he
  rw [(source_of_mem_events w he).2, RawInput.not_isPointer_of_isKey key]
  exact Bool.false_ne_true

theorem SameKeyboard.events (same : SameKeyboard t u) (standard : w.layout = .standard)
    (key : raw.isKey = true) :
    Event.ofKeyboard (t.step w raw).2.events = Event.ofKeyboard (u.step w raw).2.events := by
  have after := same.step w raw
  have masks := Mask.diff_buttons_eq_iff.2 after.held
  have reports : t.reports (t.step w raw).1 w false raw =
      u.reports (u.step w raw).1 w false raw := by
    cases raw with
    | keyDown vk extended time =>
      have typed := after.typed vk
      rw [← standard] at typed
      simp only [Tracking.reports, typed]
    | keyUp vk extended time => rfl
    | _ => cases key
  rw [ofKeyboard_events_key w t key, ofKeyboard_events_key w u key]
  refine events_congr w reports fun time kind => ?_
  simp only [Event.besideButtons, masks]

/-! ### Pointer input -/

theorem clicks_motion (t : Tracking) (p : Point) (time : Millis) :
    (t.step w (.motion p time)).1.clicks =
      (t.clicks.motion? (w.stamp time) p w.threshold).getD t.clicks := by
  show (t.motion w p time).1.clicks = _
  cases hm : t.clicks.motion? (w.stamp time) p w.threshold with
  | none => rw [motion_of_none hm, Option.getD_none]
  | some clicks =>
    obtain ⟨data, moved⟩ := motion_of_some hm
    rw [moved, Option.getD_some]

theorem SamePointer.step (same : SamePointer t u) (raw : RawInput) :
    SamePointer (t.step w raw).1 (u.step w raw).1 := by
  constructor
  · intro i hi
    rw [has_step, has_step, same.held i hi]
  · have clicks := same.clicks
    cases raw with
    | buttonDown b p time => exact congrArg (·.press b.button (w.stamp time) p w.threshold) clicks
    | buttonUp b p time => exact congrArg (·.release b.button (w.stamp time) w.threshold) clicks
    | motion p time => rw [clicks_motion, clicks_motion, clicks]
    | wheel axis delta p time => exact congrArg ClickRun.wheel clicks
    | keyDown vk extended time => exact clicks
    | keyUp vk extended time => exact clicks
    | unrecognized message time => exact clicks

theorem sameKeyboard_step_pointer (t : Tracking) (pointer : raw.isPointer = true) :
    SameKeyboard (t.step w raw).1 t := by
  constructor
  · intro i hi
    rw [has_step, RawInput.turns_of_isPointer pointer hi, Option.getD_none]
  · refine Mask.ext_bits fun i => ?_
    have unswitched : t.switches i raw = false := by
      cases raw with
      | keyDown vk extended time => cases pointer
      | _ => simp [switches, RawInput.isDownOf]
    rw [has_toggled_step, unswitched, Bool.xor_false]

theorem ofPointer_events_pointer (t : Tracking) (pointer : raw.isPointer = true) :
    Event.ofPointer (t.step w raw).2.events =
      (t.step w raw).2.events.map Event.underButtons := by
  unfold Event.ofPointer
  rw [List.filter_eq_self.2]
  exact fun e he => (source_of_mem_events w he).2.trans pointer

theorem ofKeyboard_events_pointer (t : Tracking) (pointer : raw.isPointer = true) :
    Event.ofKeyboard (t.step w raw).2.events = [] := by
  unfold Event.ofKeyboard
  rw [List.filter_eq_nil_iff.2, List.map_nil]
  intro e he
  rw [(source_of_mem_events w he).1, RawInput.not_isKey_of_isPointer pointer]
  exact Bool.false_ne_true

theorem SamePointer.events (same : SamePointer t u) (pointer : raw.isPointer = true) :
    Event.ofPointer (t.step w raw).2.events = Event.ofPointer (u.step w raw).2.events := by
  have after := same.step w raw
  have masks := Mask.inter_buttons_eq_iff.2 after.held
  have reports : t.reports (t.step w raw).1 w false raw =
      u.reports (u.step w raw).1 w false raw := by
    have before := same.clicks
    have clicks := after.clicks
    have drags := Mask.hasAny_congr after.held
    unfold Mask.hasAny at drags
    cases raw with
    | buttonDown b p time => simp only [Tracking.reports, clicks]
    | buttonUp b p time => simp only [Tracking.reports, before]
    | motion p time => simp only [Tracking.reports, before, clicks, drags]
    | wheel axis delta p time => simp only [Tracking.reports, clicks]
    | _ => cases pointer
  rw [ofPointer_events_pointer w t pointer, ofPointer_events_pointer w u pointer]
  refine events_congr w reports fun time kind => ?_
  simp only [Event.underButtons, masks]

end Step

end Tracking

/-- The inputs are of the keyboard, which has the standard layout. -/
def OfKeyboard (inputs : List (Surroundings × RawInput)) : Prop :=
  ∀ i ∈ inputs, i.2.isKey = true ∧ i.1.layout = .standard

/-- The inputs are of the pointer. -/
def OfPointer (inputs : List (Surroundings × RawInput)) : Prop :=
  ∀ i ∈ inputs, i.2.isPointer = true

namespace Normalizer

variable {σ τ : Type}

/-- The normalizer has a consumer that passes everything. -/
def IsHeard (n : Normalizer σ) : Prop := ∃ c, n.dispatcher = .register c ∧ c.PassesAll

theorem IsHeard.onInput {n : Normalizer σ} (h : n.IsHeard) (i : Surroundings × RawInput) :
    (n.onInput i).1.IsHeard := by
  obtain ⟨c, hc, passes⟩ := h
  exact ⟨_, dispatcher_onInput_register hc i, passes.fed _⟩

/-- A consumer that passes everything receives all that an input offers. -/
theorem IsHeard.events {n : Normalizer σ} (h : n.IsHeard) (i : Surroundings × RawInput) :
    (n.onInput i).2.events = (n.tracking.step i.1 i.2).2.events := by
  obtain ⟨c, hc, passes⟩ := h
  rw [trace_onInput, hc, Dispatcher.events_deliver_register, passes.verdictOnLead]
  rfl

/-- Two normalizers that both are heard, with related trackings. -/
structure Alike (same : Tracking → Tracking → Prop) (n : Normalizer σ) (m : Normalizer τ) :
    Prop where
  tracking : same n.tracking m.tracking
  left : n.IsHeard
  right : m.IsHeard

/-- Of what is heard of two streams, a view that sees only one of them shows what it shows of that
stream alone, where what the steps of the two streams do to the trackings is so, too. -/
theorem heard_alone {same : Tracking → Tracking → Prop} {view : List Event → List Event}
    {ls rs is : List (Surroundings × RawInput)} (merge : Interleaving ls rs is)
    (own : ∀ i ∈ ls, ∀ t u, same t u → same (t.step i.1 i.2).1 (u.step i.1 i.2).1 ∧
      view (t.step i.1 i.2).2.events = view (u.step i.1 i.2).2.events)
    (other : ∀ i ∈ rs, ∀ t u, same t u → same (t.step i.1 i.2).1 u ∧
      view (t.step i.1 i.2).2.events = [])
    {n : Normalizer σ} {m : Normalizer τ} (start : Alike same n m) :
    same (Run.final onInput n is).tracking (Run.final onInput m ls).tracking ∧
      (Run.steps onInput n is).flatMap (fun st => view st.output.events) =
        (Run.steps onInput m ls).flatMap fun st => view st.output.events := by
  obtain ⟨after, shown⟩ := merge.run_left (f := onInput) (g := onInput)
    (@Alike σ τ same) (fun st => view st.output.events) (fun st => view st.output.events)
    (by
      rintro i hi n m ⟨tracking, hn, hm⟩
      obtain ⟨kept, seen⟩ := own i hi _ _ tracking
      refine ⟨⟨kept, hn.onInput i, hm.onInput i⟩, ?_⟩
      show view (n.onInput i).2.events = view (m.onInput i).2.events
      rw [hn.events, hm.events, seen])
    (by
      rintro i hi n m ⟨tracking, hn, hm⟩
      obtain ⟨kept, unseen⟩ := other i hi _ _ tracking
      refine ⟨⟨kept, hn.onInput i, hm⟩, ?_⟩
      show view (n.onInput i).2.events = []
      rw [hn.events, unseen])
    start
  exact ⟨after.tracking, shown⟩

section Alone

variable {keys pointer inputs : List (Surroundings × RawInput)} (hk : OfKeyboard keys)
  (hp : OfPointer pointer) (merge : Interleaving keys pointer inputs) {n : Normalizer σ}
  {m : Normalizer τ}

include hk hp merge

/-- Of the keyboard is heard, and kept, what would be without the pointer. -/
theorem keyboard_alone (start : Alike Tracking.SameKeyboard n m) :
    (Run.final onInput n inputs).tracking.SameKeyboard (Run.final onInput m keys).tracking ∧
      (Run.steps onInput n inputs).flatMap (fun st => Event.ofKeyboard st.output.events) =
        (Run.steps onInput m keys).flatMap fun st => Event.ofKeyboard st.output.events := by
  refine heard_alone merge ?_ ?_ start
  · intro i hi t u same
    obtain ⟨key, standard⟩ := hk i hi
    exact ⟨same.step i.1 i.2, same.events i.1 standard key⟩
  · intro i hi t u same
    exact ⟨(Tracking.sameKeyboard_step_pointer i.1 t (hp i hi)).trans same,
      Tracking.ofKeyboard_events_pointer i.1 t (hp i hi)⟩

/-- Of the pointer is heard, and kept, what would be without the keyboard. -/
theorem pointer_alone (start : Alike Tracking.SamePointer n m) :
    (Run.final onInput n inputs).tracking.SamePointer (Run.final onInput m pointer).tracking ∧
      (Run.steps onInput n inputs).flatMap (fun st => Event.ofPointer st.output.events) =
        (Run.steps onInput m pointer).flatMap fun st => Event.ofPointer st.output.events := by
  refine heard_alone merge.symm ?_ ?_ start
  · intro i hi t u same
    exact ⟨same.step i.1 i.2, same.events i.1 (hp i hi)⟩
  · intro i hi t u same
    obtain ⟨key, -⟩ := hk i hi
    exact ⟨(Tracking.samePointer_step_key i.1 t key).trans same,
      Tracking.ofPointer_events_key i.1 t key⟩

end Alone

/-- **Keyboard and pointer do not interfere.** Two normalizers start from one tracking, their
consumers pass everything, and they handle the same keyboard inputs and the same pointer inputs,
each in its own order but merged in two ways. Then the same is heard of the pointer, with the button
bits of the masks, the same is heard of the keyboard, with the other bits, and in the end both have
the same tracking. -/
theorem heard_of_interleavings (t : Tracking) {c : Consumer σ} {d : Consumer τ}
    (hc : c.PassesAll) (hd : d.PassesAll) {keys pointer : List (Surroundings × RawInput)}
    (hk : OfKeyboard keys) (hp : OfPointer pointer) {one other : List (Surroundings × RawInput)}
    (h : Interleaving keys pointer one) (h' : Interleaving keys pointer other) :
    let n : Normalizer σ := { tracking := t, dispatcher := .register c }
    let m : Normalizer τ := { tracking := t, dispatcher := .register d }
    (Run.steps onInput n one).flatMap (fun st => Event.ofPointer st.output.events) =
        (Run.steps onInput m other).flatMap (fun st => Event.ofPointer st.output.events) ∧
      (Run.steps onInput n one).flatMap (fun st => Event.ofKeyboard st.output.events) =
        (Run.steps onInput m other).flatMap (fun st => Event.ofKeyboard st.output.events) ∧
      (Run.final onInput n one).tracking = (Run.final onInput m other).tracking := by
  intro n m
  have hn : n.IsHeard := ⟨c, rfl, hc⟩
  have hm : m.IsHeard := ⟨d, rfl, hd⟩
  -- Both runs are compared with the second normalizer on one of the streams alone.
  obtain ⟨keyboard, ofKeyboard⟩ := keyboard_alone hk hp h ⟨.refl t, hn, hm⟩
  obtain ⟨keyboard', ofKeyboard'⟩ := keyboard_alone hk hp h' ⟨.refl t, hm, hm⟩
  obtain ⟨pointer, ofPointer⟩ := pointer_alone hk hp h ⟨.refl t, hn, hm⟩
  obtain ⟨pointer', ofPointer'⟩ := pointer_alone hk hp h' ⟨.refl t, hm, hm⟩
  exact ⟨ofPointer.trans ofPointer'.symm, ofKeyboard.trans ofKeyboard'.symm,
    Tracking.eq_of_same (keyboard.trans keyboard'.symm) (pointer.trans pointer'.symm)⟩

/-- Shift and a letter go down, and the left button drags: the letter is typed in upper case before
and during the drag, and the motion is a drag with and without shift held. -/
theorem heard_of_drag_while_typing :
    let shift : Surroundings × RawInput := ({}, .keyDown VirtualKey.leftShift false 1)
    let letter : Surroundings × RawInput := ({}, .keyDown 0x41 false 2)
    let press : Surroundings × RawInput := ({}, .buttonDown .left ⟨5, 5⟩ 3)
    let drag : Surroundings × RawInput := ({}, .motion ⟨9, 5⟩ 4)
    let first : Normalizer Unit := { dispatcher := .register .passing }
    let one := Run.steps onInput first [shift, letter, press, drag]
    let other := Run.steps onInput first [press, shift, drag, letter]
    Consumer.passing.PassesAll ∧ OfKeyboard [shift, letter] ∧ OfPointer [press, drag] ∧
      Interleaving [shift, letter] [press, drag] [shift, letter, press, drag] ∧
      Interleaving [shift, letter] [press, drag] [press, shift, drag, letter] ∧
      one.flatMap (fun st => Event.ofPointer st.output.events) =
        other.flatMap (fun st => Event.ofPointer st.output.events) ∧
      one.flatMap (fun st => Event.ofKeyboard st.output.events) =
        other.flatMap (fun st => Event.ofKeyboard st.output.events) ∧
      (one.flatMap fun st => Event.ofPointer st.output.events).map Event.type =
        [.mouse .pressed, .mouse .dragged] ∧
      (one.flatMap fun st => Event.ofKeyboard st.output.events).map
          (fun e => e.kind.keyData?.bind KeyData.char) = [none, none, some 'A'] := by
  intro shift letter press drag first one other
  have keyboard : OfKeyboard [shift, letter] := by
    intro i hi
    rcases List.mem_pair.1 hi with rfl | rfl <;> exact ⟨rfl, rfl⟩
  have pointer : OfPointer [press, drag] := by
    intro i hi
    rcases List.mem_pair.1 hi with rfl | rfl <;> rfl
  have apart : Interleaving [shift, letter] [press, drag] [shift, letter, press, drag] :=
    .left _ (.left _ (.right _ (.right _ .nil)))
  have mixed : Interleaving [shift, letter] [press, drag] [press, shift, drag, letter] :=
    .right _ (.left _ (.right _ (.left _ .nil)))
  obtain ⟨ofPointer, ofKeyboard, -⟩ := heard_of_interleavings {} Consumer.passesAll_passing
    Consumer.passesAll_passing keyboard pointer apart mixed
  exact ⟨Consumer.passesAll_passing, keyboard, pointer, apart, mixed, ofPointer, ofKeyboard,
    by decide +kernel, by decide +kernel⟩

end Normalizer

end Capture

end InputTap
