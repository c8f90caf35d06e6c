import InputTap.Key.Virtual

/-!
# Virtual keys and places

A virtual key leads to a place, and the place back to a virtual key. `toVirtual?_ofVirtual` is the
one round: a key comes back as itself, but for the generic shift, control and alt keys, which come
back as the key of one side. `ofVirtual_of_toVirtual?` is the other: a place comes back as itself,
but for the enter key of the number pad, which needs the extended flag.
-/

set_option autoImplicit false

namespace InputTap

namespace VirtualKey

/-- The key of one side that a generic shift, control or alt key stands for. -/
def sided (vk : VirtualKey) (extended : Bool) : VirtualKey :=
  if vk = shift then leftShift
  else if vk = control then if extended then rightControl else leftControl
  else if vk = alt then if extended then rightAlt else leftAlt
  else vk

end VirtualKey

namespace KeyCode

/-- Every virtual key is listed once. -/
theorem placed_of_mem : ∀ p ∈ placedKeys, placed p.1 = p.2 := by
  decide +kernel

/-- Every place is listed once. -/
theorem toVirtual?_of_mem : ∀ p ∈ placedKeys, toVirtual? p.2 = some p.1 := by
  decide +kernel

theorem not_generic_of_mem : ∀ p ∈ placedKeys,
    p.1 ≠ VirtualKey.shift ∧ p.1 ≠ VirtualKey.control ∧ p.1 ≠ VirtualKey.alt := by
  decide +kernel

/-- Every defined key can be produced. -/
theorem isSome_toVirtual? : ∀ k ∈ all, (toVirtual? k).isSome := by
  decide +kernel

theorem toVirtual?_eq_none_iff (k : KeyCode) : toVirtual? k = none ↔ k = .undefined := by
  constructor
  · intro h
    refine Decidable.byContradiction fun defined => ?_
    have found := isSome_toVirtual? k ((mem_all_iff k).2 defined)
    rw [h] at found
    cases found
  · rintro rfl
    rfl

theorem undefined_or_toVirtual? (k : KeyCode) : k = .undefined ∨ ∃ vk, toVirtual? k = some vk := by
  cases found : toVirtual? k with
  | none => exact .inl ((toVirtual?_eq_none_iff k).1 found)
  | some vk => exact .inr ⟨vk, rfl⟩

theorem mem_of_placed {vk : VirtualKey} (h : placed vk ≠ .undefined) :
    (vk, placed vk) ∈ placedKeys := by
  unfold placed at h ⊢
  cases found : placedKeys.lookup vk with
  | none =>
    rw [found] at h
    exact absurd rfl h
  | some k =>
    obtain ⟨before, after, listed, -⟩ := List.lookup_eq_some_iff.1 found
    rw [listed]
    exact List.mem_append_right _ List.mem_cons_self

/-- A key leads to a place and back to itself, a generic one to the key of its side. -/
theorem toVirtual?_ofVirtual (vk : VirtualKey) (extended : Bool) :
    (ofVirtual vk extended).toVirtual? =
      if ofVirtual vk extended = .undefined then none else some (vk.sided extended) := by
  unfold ofVirtual VirtualKey.sided
  by_cases keypad : vk = VirtualKey.enter ∧ extended
  · rw [if_pos keypad, keypad.1]
    cases extended <;> decide
  rw [if_neg keypad]
  by_cases shift : vk = VirtualKey.shift
  · rw [if_pos shift, if_pos shift]
    decide
  rw [if_neg shift, if_neg shift]
  by_cases control : vk = VirtualKey.control
  · rw [if_pos control, if_pos control]
    cases extended <;> decide
  rw [if_neg control, if_neg control]
  by_cases alt : vk = VirtualKey.alt
  · rw [if_pos alt, if_pos alt]
    cases extended <;> decide
  rw [if_neg alt, if_neg alt]
  by_cases defined : placed vk = .undefined
  · rw [if_pos defined, defined]
    rfl
  · rw [if_neg defined]
    exact toVirtual?_of_mem _ (mem_of_placed defined)

/-- The generic control key with the extended flag is that of the right side. -/
example : (ofVirtual VirtualKey.control true).toVirtual? = some VirtualKey.rightControl := by
  decide

/-- The virtual key of a place is listed with it, but for the enter key of the number pad. -/
theorem mem_of_toVirtual? {k : KeyCode} {vk : VirtualKey} (h : toVirtual? k = some vk) :
    k = .numpadEnter ∧ vk = VirtualKey.enter ∨ k ≠ .numpadEnter ∧ (vk, k) ∈ placedKeys := by
  by_cases keypad : k = .numpadEnter
  · subst keypad
    exact .inl ⟨rfl, (Option.some.inj h).symm⟩
  · refine .inr ⟨keypad, ?_⟩
    have searched : (placedKeys.find? fun p => p.2 == k).map Prod.fst = some vk := by
      rw [← h]
      cases k <;> first | rfl | exact absurd rfl keypad
    obtain ⟨p, found, rfl⟩ := Option.map_eq_some_iff.1 searched
    have same : p.2 = k := by simpa using List.find?_some found
    rw [← same]
    exact List.mem_of_find?_eq_some found

/-- A place leads to a virtual key and back to itself, the keypad's enter key to the main one. -/
theorem ofVirtual_of_toVirtual? {k : KeyCode} {vk : VirtualKey} {extended : Bool}
    (h : toVirtual? k = some vk) (plain : vk = VirtualKey.enter → extended = false) :
    ofVirtual vk extended = if k = .numpadEnter then .enter else k := by
  rcases mem_of_toVirtual? h with ⟨rfl, rfl⟩ | ⟨other, listed⟩
  · rw [plain rfl]
    rfl
  · obtain ⟨shift, control, alt⟩ := not_generic_of_mem _ listed
    have unflagged : ¬ (vk = VirtualKey.enter ∧ extended = true) := by
      rintro ⟨rfl, flagged⟩
      rw [plain rfl] at flagged
      cases flagged
    unfold ofVirtual
    rw [if_neg unflagged, if_neg shift, if_neg control, if_neg alt, if_neg other]
    exact placed_of_mem _ listed

end KeyCode

end InputTap
