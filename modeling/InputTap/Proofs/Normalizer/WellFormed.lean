import InputTap.Proofs.Normalizer.Events

/-!
# Well-formed events

Every event that a normalizer makes of an input is well formed (`EventKind.WellFormed`): its kind
decides which fields are filled in and in which range they lie, and its coordinates are those of the
input. `Normalizer.wellFormed_onInput` says so of all that goes to the dispatcher, from every state
and whoever listens.
-/

set_option autoImplicit false

namespace InputTap

theorem Button.ofNumber?_eq_extra_iff (n : UInt16) : ofNumber? n = some (.extra n) ↔ 6 ≤ n := by
  unfold ofNumber?
  grind

/-- The button is the one that its number names. The five named ones are, and of the further ones
those from the sixth on. -/
def Button.IsNumbered (b : Button) : Prop :=
  Button.ofNumber? b.number = some b ∧ ∀ n, b = .extra n → 6 ≤ n

theorem Button.isNumbered_extra {n : UInt16} (h : 6 ≤ n) : (Button.extra n).IsNumbered :=
  ⟨(ofNumber?_eq_extra_iff n).2 h, fun _ same => Button.extra.inj same ▸ h⟩

/-- The mask has the bit of a pointer button. -/
def Mask.HasButton (m : Mask) : Prop := ∃ i ∈ buttonBits, m.has i = true

namespace Capture

/-- However a button is indexed, the one that events name is numbered. -/
theorem RawButton.isNumbered (b : RawButton) : b.button.IsNumbered := by
  cases b with
  | left => exact ⟨rfl, nofun⟩
  | right => exact ⟨rfl, nofun⟩
  | middle => exact ⟨rfl, nofun⟩
  | indexed i =>
    show Button.IsNumbered (if i = 0 ∨ i = 1 then _ else if i = 2 then _ else _)
    split
    · exact ⟨rfl, nofun⟩
    split
    · exact ⟨rfl, nofun⟩
    have third : 3 ≤ i := by grind
    have third_nat : 3 ≤ i.toNat := UInt16.le_iff_toNat_le.1 third
    have sixth : 6 ≤ (Saturate.toUInt16 (i.toNat + 3)).toNat := by
      rw [Saturate.toNat_toUInt16]
      omega
    exact Button.isNumbered_extra (UInt16.le_iff_toNat_le.2 sixth)

/-- The point of an input of the pointer. -/
def RawInput.point? : RawInput → Option Point
  | .buttonDown _ p _ | .buttonUp _ p _ | .motion p _ | .wheel _ _ p _ => some p
  | .keyDown .. | .keyUp .. | .unrecognized .. => none

/-- The coordinates are those of the input, each clamped to sixteen bits. -/
def RawInput.At (raw : RawInput) (x y : Int16) : Prop :=
  ∃ p, raw.point? = some p ∧ x.toInt = Saturate.clamp (-32768) 32767 p.x.toInt ∧
    y.toInt = Saturate.clamp (-32768) 32767 p.y.toInt

theorem RawInput.at_of_point? {raw : RawInput} {p : Point} (h : raw.point? = some p) :
    raw.At p.eventX p.eventY :=
  ⟨p, h, Saturate.toInt_toInt16 _, Saturate.toInt_toInt16 _⟩

end Capture

open Capture

/-- What an event of each kind looks like that a normalizer made of an input, under the mask that it
carries. -/
def EventKind.WellFormed (raw : RawInput) (mask : Mask) : EventKind → Prop
  | .hookEnabled | .hookDisabled => False
  | .key .typed d => d.code = .undefined ∧ ∃ c, d.char = some c
  | .key .pressed d | .key .released d => d.char = none
  | .mouse .pressed d | .mouse .released d | .mouse .clicked d =>
    (∃ b, d.button = some b ∧ b.IsNumbered) ∧ raw.At d.x d.y
  | .mouse .moved d => d.button = none ∧ ¬ mask.HasButton ∧ raw.At d.x d.y
  | .mouse .dragged d => d.button = none ∧ mask.HasButton ∧ raw.At d.x d.y
  | .wheel d =>
    d.clicks = 1 ∧ (d.scroll = .page → d.amount = 1) ∧
      (d.axis = .vertical → -32768 < d.rotation.toInt) ∧ raw.At d.x d.y

namespace Capture

/-- What one notch scrolls by is a single page or some lines. -/
theorem Surroundings.amount_of_page {w : Surroundings} (h : w.scroll.1 = .page) :
    w.scroll.2 = 1 := by
  unfold scroll at h ⊢
  split at h
  · next page => rw [if_pos page]
  · cases h

/-- The reports of an input are well formed under the mask after it. -/
theorem Tracking.wellFormed_of_mem_reports {t : Tracking} {w : Surroundings} {raw : RawInput}
    {consumed : Bool} {kind : EventKind}
    (h : kind ∈ t.reports (t.step w raw).1 w consumed raw) :
    kind.WellFormed raw (t.step w raw).1.keys.held := by
  cases raw with
  | keyDown vk extended time =>
    rcases List.mem_cons.1 h with rfl | h
    · exact rfl
    · split at h
      · cases h
      · obtain ⟨c, -, rfl⟩ := List.mem_map.1 h
        exact ⟨rfl, c, rfl⟩
  | keyUp vk extended time =>
    obtain rfl := List.mem_singleton.1 h
    exact rfl
  | buttonDown b p time =>
    obtain rfl := List.mem_singleton.1 h
    exact ⟨⟨_, rfl, b.isNumbered⟩, RawInput.at_of_point? rfl⟩
  | buttonUp b p time =>
    rcases List.mem_cons.1 h with rfl | h
    · exact ⟨⟨_, rfl, b.isNumbered⟩, RawInput.at_of_point? rfl⟩
    · split at h
      · obtain rfl := List.mem_singleton.1 h
        exact ⟨⟨_, rfl, b.isNumbered⟩, RawInput.at_of_point? rfl⟩
      · cases h
  | motion p time =>
    have moved : kind ∈ if t.clicks.point = some p then [] else [_] := h
    split at moved
    · cases moved
    · obtain rfl := List.mem_singleton.1 moved
      split
      · next dragging =>
        exact ⟨rfl, List.any_eq_true.1 dragging, RawInput.at_of_point? rfl⟩
      · next moving =>
        exact ⟨rfl, fun held => moving (List.any_eq_true.2 held), RawInput.at_of_point? rfl⟩
  | wheel axis delta p time =>
    obtain rfl := List.mem_singleton.1 h
    refine ⟨rfl, Surroundings.amount_of_page, ?_, RawInput.at_of_point? rfl⟩
    rintro rfl
    have native := Saturate.neg_negInt16 delta
    have delta_lt := delta.toInt_lt
    show -32768 < (Saturate.negInt16 delta).toInt
    omega
  | unrecognized message time => cases h

/-- What an input sends to the dispatcher is well formed, whoever listens. -/
theorem Normalizer.wellFormed_onInput {σ : Type} (n : Normalizer σ)
    (i : Surroundings × RawInput) {e : Event} (h : e ∈ (n.onInput i).2.offered) :
    e.kind.WellFormed i.2 e.mask := by
  have offered : e ∈ (n.tracking.step i.1 i.2).2.events :=
    n.dispatcher.offered_deliver_subset _ h
  rw [(Tracking.stamped_of_mem offered).mask]
  exact Tracking.wellFormed_of_mem_reports (Tracking.reported_of_mem_events offered)

end Capture

end InputTap
