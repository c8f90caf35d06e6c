import InputTap.Proofs.Post.Chord

/-!
# The masks of a chord

A chord shows in each event which shift, control, meta and alt keys are down just before it
(`ShowsDown`). The mask in force follows the modifiers as they go down and up, whatever is listed
and however often (`InForce`), but it does not follow the target. So the masks of a chord are those
of the same chord with any other target, and they are right exactly if the target is no such key
itself (`chord_shows_down_iff`).
-/

set_option autoImplicit false

namespace InputTap

/-- The bits of the shift, control, meta and alt keys of either side. -/
def Mask.sidedBits : List (Fin 16) := shiftBits ++ chordBits

/-- The key is the shift, control, meta or alt key of one side. -/
def KeyCode.IsSided (k : KeyCode) : Prop := ∃ i ∈ Mask.sidedBits, k.bit? = some i

/-- A bit belongs to one key at most. -/
theorem KeyCode.eq_of_bit? {k k' : KeyCode} {i : Fin 16} (h : k.bit? = some i)
    (h' : k'.bit? = some i) : k = k' := by
  unfold bit? at h h'
  split at h <;> cases h <;> split at h' <;> first | rfl | cases h'

/-- How an event moves a key: down, up, or not at all. -/
def Event.moves? (k : KeyCode) (e : Event) : Option Bool :=
  match e.kind with
  | .key .pressed d => if d.code = k then some true else none
  | .key .released d => if d.code = k then some false else none
  | _ => none

namespace Post.Gesture

open Mask (sidedBits)

/-- After these events the key is down: it was pressed and has not been released since. -/
def IsDown (k : KeyCode) (events : List Event) : Prop :=
  (events.filterMap (Event.moves? k)).getLast? = some true

theorem isDown_append_singleton (k : KeyCode) (events : List Event) (e : Event) :
    IsDown k (events ++ [e]) ↔
      e.moves? k = some true ∨ e.moves? k = none ∧ IsDown k events := by
  unfold IsDown
  rw [List.filterMap_append, List.getLast?_append]
  cases moved : e.moves? k with
  | none => simp [moved]
  | some down => cases down <;> simp [moved]

theorem moves?_pressed (k k' : KeyCode) (m : Mask) :
    (keyEvent .pressed k m).moves? k' = if k = k' then some true else none := rfl

theorem moves?_released (k k' : KeyCode) (m : Mask) :
    (keyEvent .released k m).moves? k' = if k = k' then some false else none := rfl

/-- The mask has the bits of the sided keys that are down after these events, and no others. -/
def ShowsDown (mask : Mask) (events : List Event) : Prop :=
  ∀ i : Fin 16, mask.has i = true ↔ i ∈ sidedBits ∧ ∃ k, k.bit? = some i ∧ IsDown k events

/-- A sided key has its own bit in a chord, and other keys have none. -/
theorem has_modifierBits (k : KeyCode) (i : Fin 16) :
    (modifierBits k).has i = true ↔ i ∈ sidedBits ∧ k.bit? = some i := by
  cases k <;> revert i <;> decide

theorem modifierBits_of_not_isSided {k : KeyCode} (plain : ¬ k.IsSided) :
    modifierBits k = .empty := by
  refine Mask.ext_bits fun i => ?_
  rw [Mask.has_empty, ← Bool.not_eq_true, has_modifierBits]
  rintro ⟨sided, own⟩
  exact plain ⟨i, sided, own⟩

section Moves

variable {mask : Mask} {events : List Event}

/-- A press adds the bits of its key. -/
theorem ShowsDown.press (shown : ShowsDown mask events) (k : KeyCode) (m : Mask) :
    ShowsDown (mask ||| modifierBits k) (events ++ [keyEvent .pressed k m]) := by
  intro i
  rw [Mask.has_union, Bool.or_eq_true, shown i, has_modifierBits, ← and_or_left]
  refine and_congr_right fun _ => ?_
  constructor
  · rintro (⟨k', own, down⟩ | own)
    · refine ⟨k', own, (isDown_append_singleton _ _ _).2 ?_⟩
      rw [moves?_pressed]
      by_cases same : k = k' <;> simp [same, down]
    · refine ⟨k, own, (isDown_append_singleton _ _ _).2 (.inl ?_)⟩
      rw [moves?_pressed, if_pos rfl]
  · rintro ⟨k', own, down⟩
    rw [isDown_append_singleton, moves?_pressed] at down
    by_cases same : k = k'
    · exact .inr (same ▸ own)
    · simp only [same] at down
      exact .inl ⟨k', own, by simpa using down⟩

/-- A release takes the bits of its key away. -/
theorem ShowsDown.release (shown : ShowsDown mask events) (k : KeyCode) (m : Mask) :
    ShowsDown (mask \ modifierBits k) (events ++ [keyEvent .released k m]) := by
  intro i
  rw [Mask.has_diff, Bool.and_eq_true, Bool.not_eq_true', ← Bool.not_eq_true, shown i,
    has_modifierBits]
  constructor
  · rintro ⟨⟨sided, k', own, down⟩, others⟩
    refine ⟨sided, k', own, (isDown_append_singleton _ _ _).2 (.inr ⟨?_, down⟩)⟩
    rw [moves?_released, if_neg]
    rintro rfl
    exact others ⟨sided, own⟩
  · rintro ⟨sided, k', own, down⟩
    rw [isDown_append_singleton, moves?_released] at down
    -- A key that is still down is not the released one, and no other key has its bit.
    have apart : k ≠ k' := by
      rintro rfl
      simp at down
    rw [if_neg apart] at down
    refine ⟨⟨sided, k', own, by simpa using down⟩, ?_⟩
    rintro ⟨-, own'⟩
    exact apart (KeyCode.eq_of_bit? own' own)

end Moves

/-- Each event so far has shown the keys that were down before it, and this is the mask to show
next. -/
structure InForce (mask : Mask) (events : List Event) : Prop where
  shown : ∀ before e after, events = before ++ e :: after → ShowsDown e.mask before
  next : ShowsDown mask events

namespace InForce

variable {mask : Mask} {events : List Event}

theorem nil : InForce .empty [] where
  shown before e after split := by simp at split
  next i := by simp [IsDown]

theorem press (h : InForce mask events) (k : KeyCode) :
    InForce (mask ||| modifierBits k) (events ++ [keyEvent .pressed k mask]) where
  shown := (forall_split_append_singleton events _).2 ⟨h.shown, h.next⟩
  next := h.next.press k mask

theorem release (h : InForce mask events) (k : KeyCode) :
    InForce (mask \ modifierBits k) (events ++ [keyEvent .released k mask]) where
  shown := (forall_split_append_singleton events _).2 ⟨h.shown, h.next⟩
  next := h.next.release k mask

/-- The tap of a key that is not sided leaves the mask in force. -/
theorem tap (h : InForce mask events) {k : KeyCode} (plain : ¬ k.IsSided) :
    InForce mask (events ++ [keyEvent .pressed k mask, keyEvent .released k mask]) := by
  have pressed := h.press k
  rw [modifierBits_of_not_isSided plain, Mask.union_empty] at pressed
  have released := pressed.release k
  rw [modifierBits_of_not_isSided plain, Mask.diff_empty, List.append_assoc] at released
  exact released

/-- A chord whose target is not sided keeps the mask in force, from its first event on. -/
theorem chordUnder (h : InForce mask events) {target : KeyCode} (plain : ¬ target.IsSided)
    (modifiers : List KeyCode) :
    InForce (chordUnder target modifiers mask).2
      (events ++ (chordUnder target modifiers mask).1) := by
  induction modifiers generalizing mask events with
  | nil => exact h.tap plain
  | cons k modifiers ih =>
    have released := (ih (h.press k)).release k
    rw [List.append_assoc, List.append_assoc] at released
    exact released

end InForce

theorem chordUnder_cons (target k : KeyCode) (modifiers : List KeyCode) (mask : Mask) :
    chordUnder target (k :: modifiers) mask =
      (keyEvent .pressed k mask :: (chordUnder target modifiers (mask ||| modifierBits k)).1 ++
          [keyEvent .released k (chordUnder target modifiers (mask ||| modifierBits k)).2],
        (chordUnder target modifiers (mask ||| modifierBits k)).2 \ modifierBits k) := rfl

/-- The target has no part in the masks of a chord. -/
theorem masks_chordUnder (target other : KeyCode) (modifiers : List KeyCode) (mask : Mask) :
    (chordUnder target modifiers mask).1.map Event.mask =
        (chordUnder other modifiers mask).1.map Event.mask ∧
      (chordUnder target modifiers mask).2 = (chordUnder other modifiers mask).2 := by
  induction modifiers generalizing mask with
  | nil => exact ⟨rfl, rfl⟩
  | cons k modifiers ih =>
    obtain ⟨masks, last⟩ := ih (mask ||| modifierBits k)
    rw [chordUnder_cons, chordUnder_cons, last]
    refine ⟨?_, rfl⟩
    simp only [List.cons_append, List.map_cons, List.map_append, masks]

/-- The tap of the target stands in the middle of a chord, under one mask, and that is also the mask
of the first release of a modifier, if there is one. -/
theorem chordUnder_tap (target : KeyCode) (modifiers : List KeyCode) (mask : Mask) :
    ∃ m downs ups, (chordUnder target modifiers mask).1 =
        downs ++ keyEvent .pressed target m :: keyEvent .released target m :: ups ∧
      ((ups = [] ∧ m = mask ∧ (chordUnder target modifiers mask).2 = m) ∨
        ∃ k later, ups = keyEvent .released k m :: later) := by
  induction modifiers generalizing mask with
  | nil => exact ⟨mask, [], [], rfl, .inl ⟨rfl, rfl, rfl⟩⟩
  | cons k modifiers ih =>
    obtain ⟨m, downs, ups, split, rest⟩ := ih (mask ||| modifierBits k)
    rw [chordUnder_cons]
    refine ⟨m, keyEvent .pressed k mask :: downs,
      ups ++ [keyEvent .released k (chordUnder target modifiers (mask ||| modifierBits k)).2],
      ?_, .inr ?_⟩
    · simp [split]
    · rcases rest with ⟨rfl, -, last⟩ | ⟨k', later, rfl⟩
      · rw [last]
        exact ⟨k, [], rfl⟩
      · exact ⟨k', _, rfl⟩

/-- A chord that taps a sided key does not show it. Either the release of the target hides that it
is down, or, where it is also listed as a modifier, the release after it shows that it still is. -/
theorem not_shown_of_isSided {target : KeyCode} (sided : target.IsSided)
    (modifiers : List KeyCode) :
    ¬ ∀ before e after, chord modifiers target = before ++ e :: after →
      ShowsDown e.mask before := by
  intro law
  obtain ⟨i, listed, own⟩ := sided
  obtain ⟨m, downs, ups, split, rest⟩ := chordUnder_tap target modifiers .empty
  let pressed := downs ++ [keyEvent .pressed target m]
  have tapped : chord modifiers target = pressed ++ keyEvent .released target m :: ups := by
    simp [chord, split, pressed]
  have down : IsDown target pressed := by
    rw [isDown_append_singleton, moves?_pressed, if_pos rfl]
    exact .inl rfl
  -- A release of the target that shows its bit is under a mask that a listed modifier has set, and
  -- the release that comes next is under the same mask.
  have shown : m.has i = true := (law _ _ _ tapped i).2 ⟨listed, target, own, down⟩
  rcases rest with ⟨-, rfl, -⟩ | ⟨k, later, rfl⟩
  · rw [Mask.has_empty] at shown
    cases shown
  · have released : chord modifiers target = (pressed ++ [keyEvent .released target m]) ++
        keyEvent .released k m :: later :=
      tapped.trans (List.append_cons _ _ _)
    obtain ⟨-, k', own', still⟩ := (law _ _ _ released i).1 shown
    obtain rfl := KeyCode.eq_of_bit? own own'
    rw [isDown_append_singleton, moves?_released, if_pos rfl] at still
    simp at still

/-- **A chord shows the keys that are down, unless it taps one of them.** A chord has a press and a
release of every listed key, the target last: the presses come first, and the release of each key
stands at the place that mirrors its press. Its masks do not depend on the target. Each event shows
exactly the sided keys that are down just before it, a key being down from a press of it until its
next release, if and only if the target is not a sided key itself. -/
theorem chord_shows_down_iff (modifiers : List KeyCode) (target : KeyCode) :
    let events := chord modifiers target
    let n := modifiers.length
    events.length = 2 * n + 2 ∧
      (∀ i ≤ n, ∃ k, (modifiers ++ [target])[i]? = some k ∧
        events[i]?.map Event.kind = some (.key .pressed { code := k, rawCode := 0 }) ∧
        events[2 * n + 1 - i]?.map Event.kind =
          some (.key .released { code := k, rawCode := 0 })) ∧
      (∀ other, events.map Event.mask = (chord modifiers other).map Event.mask) ∧
      ((∀ before e after, events = before ++ e :: after → ShowsDown e.mask before) ↔
        ¬ target.IsSided) := by
  intro events n
  have kinds : events.map Event.kind = (strokes modifiers target).map Stroke.kind :=
    kinds_chord modifiers target
  refine ⟨?_, ?_, ?_, ?_⟩
  · calc
      events.length = (events.map Event.kind).length := (List.length_map _).symm
      _ = ((strokes modifiers target).map Stroke.kind).length := by rw [kinds]
      _ = 2 * n + 2 := by rw [List.length_map, length_strokes]
  · intro i le
    have inside : i < (modifiers ++ [target]).length := by
      rw [List.length_append, List.length_singleton]
      omega
    refine ⟨_, List.getElem?_eq_getElem inside, ?_, ?_⟩
    · rw [← List.getElem?_map, kinds, List.getElem?_map, getElem?_strokes_down modifiers target le,
        List.getElem?_eq_getElem inside]
      rfl
    · rw [← List.getElem?_map, kinds, List.getElem?_map, getElem?_strokes_up modifiers target le,
        List.getElem?_eq_getElem inside]
      rfl
  · exact fun other => (masks_chordUnder target other modifiers .empty).1
  · constructor
    · exact fun law sided => not_shown_of_isSided sided modifiers law
    · intro plain
      exact (InForce.nil.chordUnder plain modifiers).shown

/-- A shift that is listed twice shows until its first release, and the tap of a shift is not shown,
whether it is listed or not. -/
theorem chord_shows_down_with_repeated_shift :
    let repeated := chord [.shiftLeft, .shiftLeft] .keyA
    (∃ k, repeated[1]?.map Event.kind = some (.key .pressed { code := k, rawCode := 0 }) ∧
        repeated[4]?.map Event.kind = some (.key .released { code := k, rawCode := 0 })) ∧
      (∀ before e after, repeated = before ++ e :: after → ShowsDown e.mask before) ∧
      repeated.map Event.mask =
        [.empty, .shiftLeft, .shiftLeft, .shiftLeft, .shiftLeft, .empty] ∧
      ¬ (∀ before e after, chord [.shiftLeft] .shiftLeft = before ++ e :: after →
        ShowsDown e.mask before) := by
  intro repeated
  have plain : ¬ KeyCode.IsSided .keyA := by
    rintro ⟨i, -, own⟩
    cases own
  obtain ⟨-, mirrored, -, shows⟩ := chord_shows_down_iff [.shiftLeft, .shiftLeft] .keyA
  obtain ⟨k, -, down, up⟩ := mirrored 1 (by decide)
  obtain ⟨-, -, -, hides⟩ := chord_shows_down_iff [.shiftLeft] .shiftLeft
  refine ⟨⟨k, down, up⟩, shows.2 plain, by decide, fun law => hides.1 law ?_⟩
  exact ⟨0, by decide, rfl⟩

/-- The release of a tapped shift key does not show that the key is down. -/
theorem tapped_shift_not_shown :
    ¬ ∀ before e after, chord [] .shiftLeft = before ++ e :: after → ShowsDown e.mask before := by
  intro law
  have released := law [keyEvent .pressed .shiftLeft .empty] (keyEvent .released .shiftLeft .empty)
    [] rfl 0
  have down : IsDown .shiftLeft [keyEvent .pressed .shiftLeft .empty] := rfl
  exact absurd (released.2 ⟨by decide, .shiftLeft, rfl, down⟩) (by decide)

end Post.Gesture

end InputTap
