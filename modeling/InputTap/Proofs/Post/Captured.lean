import InputTap.Proofs.Normalizer.WellFormed
import InputTap.Proofs.Post.Records

/-!
# Posting captured buttons

The records of a press or a release that is well formed can always be built, and the datum of an
extra button is in range (`isButtonPost_of_wellFormed`). So whatever a normalizer captures of a
button can be posted.
-/

set_option autoImplicit false

namespace InputTap

open Capture

namespace Post

/-- The action is that of a button, and the datum of an extra button is in range. -/
structure PointerRecord.OfButton (r : PointerRecord) : Prop where
  action : r.action ∈ [.leftDown, .leftUp, .rightDown, .rightUp, .middleDown, .middleUp,
    PointerAction.extraDown, .extraUp]
  data : r.action = .extraDown ∨ r.action = .extraUp → 1 ≤ r.data ∧ r.data ≤ 65532

/-- A numbered button has such a record, whether it goes down or up. -/
theorem buttonRecord_of_isNumbered {b : Button} (h : b.IsNumbered) (up : Bool) :
    ∃ r : PointerRecord, Poster.buttonRecord b up = .pointer r ∧ r.OfButton := by
  cases b with
  | left => cases up <;> exact ⟨_, rfl, by decide, nofun⟩
  | right => cases up <;> exact ⟨_, rfl, by decide, nofun⟩
  | middle => cases up <;> exact ⟨_, rfl, by decide, nofun⟩
  | button4 => cases up <;> exact ⟨_, rfl, by decide, fun _ => by decide⟩
  | button5 => cases up <;> exact ⟨_, rfl, by decide, fun _ => by decide⟩
  | extra n =>
    have sixth : 6 ≤ n.toNat := UInt16.le_iff_toNat_le.1 (h.2 n rfl)
    have greatest := n.toNat_lt
    have range : 1 ≤ (n.toNat : Int) - 3 ∧ (n.toNat : Int) - 3 ≤ 65532 := by omega
    cases up <;> exact ⟨_, rfl, by simp, fun _ => range⟩

/-- What was built is one action of a button, after nothing but moves. -/
def IsButtonPost (built : Except PostFault (List Record)) : Prop :=
  ∃ moves r, built = .ok (moves ++ [.pointer r]) ∧ (∀ m ∈ moves, m.isMove = true) ∧ r.OfButton

theorem isMove_of_mem_motionRecords {p : Poster} {moving : Bool} {d : MouseData} {m : Record}
    (h : m ∈ p.motionRecords moving d) : m.isMove = true := by
  unfold Poster.motionRecords at h
  split at h
  · obtain rfl := List.mem_singleton.1 h
    rfl
  · cases h

theorem isButtonPost_buttonRecords (p : Poster) (moving : Bool) {d : MouseData} {b : Button}
    (named : d.button = some b) (numbered : b.IsNumbered) (up : Bool) :
    IsButtonPost (p.buttonRecords moving d up) := by
  obtain ⟨r, record, ofButton⟩ := buttonRecord_of_isNumbered numbered up
  refine ⟨p.motionRecords moving d, r, ?_, fun _ => isMove_of_mem_motionRecords, ofButton⟩
  unfold Poster.buttonRecords
  rw [named, ← record]

/-- A press or a release that is well formed can be posted, by every poster. -/
theorem isButtonPost_of_wellFormed {raw : RawInput} {e : Event}
    (wellFormed : e.kind.WellFormed raw e.mask)
    (button : e.type = .mouse .pressed ∨ e.type = .mouse .released) (p : Poster) (moving : Bool) :
    IsButtonPost (p.records e moving) := by
  obtain ⟨time, mask, kind⟩ := e
  cases kind with
  | mouse action d =>
    rcases button with pressed | released
    · obtain rfl : action = .pressed := EventType.mouse.inj pressed
      obtain ⟨⟨b, named, numbered⟩, -⟩ := wellFormed
      exact isButtonPost_buttonRecords p moving named numbered false
    · obtain rfl : action = .released := EventType.mouse.inj released
      obtain ⟨⟨b, named, numbered⟩, -⟩ := wellFormed
      exact isButtonPost_buttonRecords p moving named numbered true
  | hookEnabled => rcases button with h | h <;> cases h
  | hookDisabled => rcases button with h | h <;> cases h
  | key action d => rcases button with h | h <;> cases h
  | wheel d => rcases button with h | h <;> cases h

/-- **Captured events are well formed, and captured buttons can be posted.** From every state, over
every run, under all lookups, properties and options and whoever listens, each event that goes to
the dispatcher is well formed for the input that it came of. If it is the press or the release of a
button, then every poster, moving the pointer or not, has records for it: nothing but moves, and
after them one action of a button, in which the datum of an extra button lies between 1 and
65532. -/
theorem captured_events_well_formed {σ : Type} (n : Normalizer σ)
    (inputs : List (Surroundings × RawInput)) :
    ∀ st ∈ Run.steps Normalizer.onInput n inputs, ∀ e ∈ st.output.offered,
      e.kind.WellFormed st.input.2 e.mask ∧
        (e.type = .mouse .pressed ∨ e.type = .mouse .released →
          ∀ (p : Poster) (moving : Bool), IsButtonPost (p.records e moving)) := by
  intro st hst e offered
  obtain ⟨before, i, after, -, rfl⟩ := Run.mem_steps_iff.1 hst
  have wellFormed : e.kind.WellFormed i.2 e.mask :=
    (Run.final Normalizer.onInput n before).wellFormed_onInput i offered
  exact ⟨wellFormed, isButtonPost_of_wellFormed wellFormed⟩

/-- The press of the button with the greatest index, beyond both ends of the coordinates. -/
def farPress : RawInput := .buttonDown (.indexed 65535) ⟨100000, -100000⟩ 7

/-- What is captured of it is well formed, and it is posted with the greatest datum. -/
theorem captured_far_press_well_formed :
    let n : Normalizer Unit := { dispatcher := .register .passing }
    let e : Event := ⟨7, .empty, .mouse .pressed
      { button := some (.extra 65535), clicks := 1, x := 32767, y := -32768 }⟩
    Run.stepOf Normalizer.onInput n ({}, farPress) ∈
        Run.steps Normalizer.onInput n [({}, farPress)] ∧
      e ∈ (n.onInput ({}, farPress)).2.offered ∧ e.type = .mouse .pressed ∧
      e.kind.WellFormed farPress .empty ∧ IsButtonPost (({} : Poster).records e true) ∧
      ({} : Poster).records e false = .ok [.pointer { action := .extraDown, data := 65532 }] := by
  intro n e
  have step : Run.stepOf Normalizer.onInput n ({}, farPress) ∈
      Run.steps Normalizer.onInput n [({}, farPress)] := List.mem_cons_self
  have offered : e ∈ (n.onInput ({}, farPress)).2.offered := by decide +kernel
  obtain ⟨wellFormed, posts⟩ := captured_events_well_formed n [({}, farPress)] _ step e offered
  exact ⟨step, offered, rfl, wellFormed, posts (.inl rfl) {} true, by decide +kernel⟩

end Post

end InputTap
