import InputTap.Post.Poster

/-!
# Posting with and without motion

Some events have a position that the pointer goes to before anything else is posted of them. Posting
with motion adds that motion and nothing more (`records_moving`), and the records that it adds it to
leave the pointer where it is (`isStill_records`). An event that cannot be posted is refused before
its motion is built, so that it is refused either way.
-/

set_option autoImplicit false

namespace InputTap.Post

/-- At most one record, which leaves the pointer where it is. -/
structure IsStill (rs : List Record) : Prop where
  length_le : rs.length ≤ 1
  not_isMove : ∀ r ∈ rs, r.isMove = false

theorem isStill_nil : IsStill [] := ⟨Nat.zero_le 1, nofun⟩

theorem isStill_singleton {r : Record} (h : r.isMove = false) : IsStill [r] :=
  ⟨Nat.le_refl 1, fun _ mem => List.mem_singleton.1 mem ▸ h⟩

/-- The types of the events that the pointer goes to. -/
def placedTypes : List EventType :=
  [.mouse .pressed, .mouse .released, .mouse .moved, .mouse .dragged]

namespace Poster

variable {p : Poster} {e : Event}

/-- The motion to the position of an event, if the pointer goes there. -/
def motions (p : Poster) (e : Event) : List Record :=
  match e.kind with
  | .mouse .pressed d | .mouse .released d | .mouse .moved d | .mouse .dragged d =>
    [p.motionRecord d]
  | _ => []

/-- With motion, an event has the records that it has without, behind its motion. -/
theorem records_moving (p : Poster) (e : Event) :
    p.records e true = (p.records e false).map fun rs => p.motions e ++ rs := by
  have key (mask : Mask) (code : KeyCode) (up : Bool) :
      (p.keyRecord mask code up).map (fun r => [r]) =
        ((p.keyRecord mask code up).map fun r => [r]).map fun rs => [] ++ rs := by
    cases p.keyRecord mask code up <;> rfl
  obtain ⟨time, mask, kind⟩ := e
  cases kind with
  | hookEnabled | hookDisabled | wheel d => rfl
  | key action d =>
    cases action with
    | typed => rfl
    | pressed => exact key mask d.code false
    | released => exact key mask d.code true
  | mouse action d =>
    obtain ⟨button, clicks, x, y⟩ := d
    cases action with
    | clicked | moved | dragged => rfl
    | pressed | released => cases button <;> rfl

theorem not_isMove_buttonRecord (b : Button) (up : Bool) : (buttonRecord b up).isMove = false := by
  cases b <;> cases up <;> rfl

theorem not_isMove_wheelRecord (d : WheelData) : (wheelRecord d).isMove = false := by
  obtain ⟨clicks, x, y, scroll, amount, rotation, axis⟩ := d
  cases axis <;> rfl

theorem isStill_keyRecord {mask : Mask} {code : KeyCode} {up : Bool} {rs : List Record}
    (h : (p.keyRecord mask code up).map (fun r => [r]) = .ok rs) : IsStill rs := by
  unfold keyRecord at h
  split at h
  · cases h
  · obtain rfl := Except.ok.inj h
    exact isStill_singleton rfl

/-- Without motion an event has one record at most, and the pointer stays where it is. -/
theorem isStill_records {rs : List Record} (h : p.records e false = .ok rs) : IsStill rs := by
  obtain ⟨time, mask, kind⟩ := e
  cases kind with
  | hookEnabled | hookDisabled => cases h
  | wheel d =>
    obtain rfl := Except.ok.inj h
    exact isStill_singleton (not_isMove_wheelRecord d)
  | key action d =>
    cases action with
    | typed => cases h
    | pressed | released => exact isStill_keyRecord h
  | mouse action d =>
    obtain ⟨button, clicks, x, y⟩ := d
    cases action with
    | clicked => cases h
    | moved | dragged =>
      obtain rfl := Except.ok.inj h
      exact isStill_nil
    | pressed | released =>
      cases button with
      | none => cases h
      | some b =>
        obtain rfl := Except.ok.inj h
        exact isStill_singleton (not_isMove_buttonRecord b _)

/-- The pointer goes to the position of an event exactly for some types of events, and to nowhere
for the others. -/
theorem motions_cases (p : Poster) (e : Event) :
    (e.type ∉ placedTypes ∧ p.motions e = []) ∨
      e.type ∈ placedTypes ∧
        ∃ d, e.kind.mouseData? = some d ∧ p.motions e = [p.motionRecord d] := by
  obtain ⟨time, mask, kind⟩ := e
  unfold Event.type
  cases kind with
  | hookEnabled | hookDisabled | wheel d => exact .inl ⟨by simp [placedTypes, EventKind.type], rfl⟩
  | key action d => exact .inl ⟨by simp [placedTypes, EventKind.type], rfl⟩
  | mouse action d =>
    cases action with
    | clicked => exact .inl ⟨by simp [placedTypes, EventKind.type], rfl⟩
    | pressed | released | moved | dragged =>
      exact .inr ⟨by simp [placedTypes, EventKind.type], d, rfl, rfl⟩

end Poster

/-- The records of an event with motion are those without it, but for one motion that comes first:
it goes to the normalized position of the event, and is there exactly for the types of events that
the pointer goes to. -/
structure DifferInMotion (p : Poster) (e : Event) (still moving : List Record) : Prop where
  still_eq : still = moving.filter fun r => !r.isMove
  still_unmoved : ∀ r ∈ still, r.isMove = false
  moves_first : ∀ r ∈ moving.tail, r.isMove = false
  moves_to : ∀ r ∈ moving, r.isMove = true → ∃ d, e.kind.mouseData? = some d ∧
    r = .pointer
      { action := .move
        dx := (p.desktop.normalize d.x.toInt d.y.toInt).1
        dy := (p.desktop.normalize d.x.toInt d.y.toInt).2 }
  moves_iff : (∃ r ∈ moving, r.isMove = true) ↔ e.type ∈ placedTypes
  still_length : still.length ≤ 2
  moving_length : moving.length ≤ 2

/-- Records that leave the pointer where it is differ in motion from the same records behind the
motion of their event. -/
theorem IsStill.differInMotion {p : Poster} {e : Event} {rs : List Record} (still : IsStill rs) :
    DifferInMotion p e rs (p.motions e ++ rs) := by
  have kept : rs.filter (fun r => !r.isMove) = rs :=
    List.filter_eq_self.2 fun r mem => by rw [still.not_isMove r mem]; rfl
  have stays (r : Record) (mem : r ∈ rs) : ¬ r.isMove = true :=
    Bool.eq_false_iff.1 (still.not_isMove r mem)
  have short := still.length_le
  rcases p.motions_cases e with ⟨unplaced, none⟩ | ⟨placed, d, data, one⟩
  · rw [none, List.nil_append]
    exact
      { still_eq := kept.symm
        still_unmoved := still.not_isMove
        moves_first := fun r mem => still.not_isMove r (List.mem_of_mem_tail mem)
        moves_to := fun r mem moves => absurd moves (stays r mem)
        moves_iff := ⟨fun ⟨r, mem, moves⟩ => absurd moves (stays r mem),
          fun placed => absurd placed unplaced⟩
        still_length := by omega
        moving_length := by omega }
  · rw [one]
    refine
      { still_eq := kept.symm
        still_unmoved := still.not_isMove
        moves_first := still.not_isMove
        moves_to := fun r mem moves => ?_
        moves_iff := ⟨fun _ => placed, fun _ => ⟨_, List.mem_cons_self, rfl⟩⟩
        still_length := by omega
        moving_length := Nat.succ_le_succ short }
    rcases List.mem_cons.1 mem with rfl | mem
    · exact ⟨d, data, rfl⟩
    · exact absurd moves (stays r mem)

/-- **The two ways of posting differ only in motion.** For every event, layout, desktop and table of
extended keys, posting without motion and posting with it are refused together, and for the same
reason; and otherwise the records without motion are those with it but for the motion to the
position of the event, which comes first. -/
theorem posts_differ_in_motion (p : Poster) (e : Event) :
    (∃ fault, p.records e false = .error fault ∧ p.records e true = .error fault) ∨
      ∃ still moving, p.records e false = .ok still ∧ p.records e true = .ok moving ∧
        DifferInMotion p e still moving := by
  have moving := p.records_moving e
  cases unmoved : p.records e false with
  | error fault =>
    rw [unmoved] at moving
    exact .inl ⟨fault, rfl, moving⟩
  | ok rs =>
    rw [unmoved] at moving
    exact .inr ⟨rs, _, rfl, moving, (Poster.isStill_records unmoved).differInMotion⟩

end InputTap.Post
