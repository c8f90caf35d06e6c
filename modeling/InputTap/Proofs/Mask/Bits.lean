import InputTap.Capture.RawInput
import InputTap.Mask.Held

/-!
# The bits of a mask

Every bit belongs to one virtual key (`keyOf`) and five of them to buttons (`RawButton.bit?`). The
tables of the tracked keys and of the button masks agree with that: `has_collect_trackedKeys` for
the live keys, `has_ofVirtual` for keys that arrive as input, and `has_button` for buttons.
-/

set_option autoImplicit false

namespace InputTap

namespace Mask

/-- Bits that go down exactly where `P` holds. -/
theorem has_down {m bits : Mask} {i : Nat} {P : Prop} [Decidable P] (h : bits.has i = decide P) :
    (m ||| bits).has i = (if P then some true else none).getD (m.has i) := by
  rw [has_union, h]
  by_cases hp : P
  · rw [if_pos hp, decide_eq_true hp]
    exact Bool.or_true _
  · rw [if_neg hp, decide_eq_false hp]
    exact Bool.or_false _

/-- Bits that go up exactly where `P` holds. -/
theorem has_up {m bits : Mask} {i : Nat} {P : Prop} [Decidable P] (h : bits.has i = decide P) :
    (m \ bits).has i = (if P then some false else none).getD (m.has i) := by
  rw [has_diff, h]
  by_cases hp : P
  · rw [if_pos hp, decide_eq_true hp]
    exact Bool.and_false _
  · rw [if_neg hp, decide_eq_false hp]
    exact Bool.and_true _

theorem union_empty (m : Mask) : m ||| empty = m :=
  ext_has fun i => by rw [has_union, has_empty, Bool.or_false]

theorem diff_empty (m : Mask) : m \ empty = m :=
  ext_has fun i => by rw [has_diff, has_empty, Bool.not_false, Bool.and_true]

/-- The virtual key of each bit, from the lowest bit to the highest. -/
def keyOf : Fin 16 → VirtualKey :=
  List.get
    [.leftShift, .leftControl, .leftMeta, .leftAlt,
     .rightShift, .rightControl, .rightMeta, .rightAlt,
     .leftButton, .rightButton, .middleButton, .fourthButton, .fifthButton,
     .numLock, .capsLock, .scrollLock]

theorem has_of_ge (m : Mask) {i : Nat} (h : 16 ≤ i) : m.has i = false :=
  BitVec.getLsbD_of_ge m.bits i h

theorem ext_bits {a b : Mask} (h : ∀ i : Fin 16, a.has i = b.has i) : a = b := by
  refine ext_has fun i => ?_
  by_cases hi : i < 16
  · exact h ⟨i, hi⟩
  · rw [has_of_ge a (Nat.le_of_not_lt hi), has_of_ge b (Nat.le_of_not_lt hi)]

theorem isEmpty_iff (m : Mask) : m.isEmpty = true ↔ ∀ i : Fin 16, m.has i = false := by
  constructor
  · intro h i
    have zero : m.bits = 0 := beq_iff_eq.1 h
    unfold has
    rw [zero]
    exact BitVec.getLsbD_zero
  · intro h
    have none : m = empty := ext_bits fun i => by rw [h i, has_empty]
    rw [none]
    rfl

/-- Two masks meet in a bit that both have. -/
theorem meets_iff (m other : Mask) :
    m.meets other = true ↔ ∃ i : Fin 16, m.has i = true ∧ other.has i = true := by
  unfold meets
  rw [Bool.not_eq_true', Bool.eq_false_iff, Ne, isEmpty_iff]
  simp only [has_inter, Bool.and_eq_false_iff, Classical.not_forall, not_or, Bool.not_eq_false]

/-- The bits of the five pointer buttons that have one. -/
def buttonBits : List (Fin 16) := [8, 9, 10, 11, 12]

theorem has_buttons (i : Fin 16) : buttons.has i = true ↔ i ∈ buttonBits := by
  revert i
  decide

/-- Masks meet where one has a bit of the other. -/
theorem meets_eq_any (m : Mask) {other : Mask} {bits : List (Fin 16)}
    (listed : ∀ i : Fin 16, other.has i = true ↔ i ∈ bits) :
    m.meets other = bits.any fun i => m.has i := by
  rw [Bool.eq_iff_iff, meets_iff, List.any_eq_true]
  constructor
  · rintro ⟨i, hm, ho⟩
    exact ⟨i, (listed i).1 ho, hm⟩
  · rintro ⟨i, hi, hm⟩
    exact ⟨i, hm, (listed i).2 hi⟩

theorem meets_buttons (m : Mask) : m.meets buttons = buttonBits.any fun i => m.has i :=
  m.meets_eq_any has_buttons

/-- Bits that were set before stay, and each key that passes the test adds its own. -/
theorem has_foldl_collect (keys : List (VirtualKey × Mask)) (test : VirtualKey → Bool) (m : Mask)
    (i : Nat) :
    (keys.foldl (fun m p => if test p.1 then m ||| p.2 else m) m).has i =
      (m.has i || keys.any fun p => test p.1 && p.2.has i) := by
  induction keys generalizing m with
  | nil => exact (Bool.or_false _).symm
  | cons p keys ih =>
    rw [List.foldl_cons, ih, List.any_cons, ← Bool.or_assoc]
    cases test p.1 with
    | true => rw [if_pos rfl, has_union, Bool.true_and]
    | false => rw [if_neg Bool.false_ne_true, Bool.false_and, Bool.or_false]

theorem has_collect (keys : List (VirtualKey × Mask)) (test : VirtualKey → Bool) (i : Nat) :
    (collect keys test).has i = keys.any fun p => test p.1 && p.2.has i := by
  unfold collect
  rw [has_foldl_collect, has_empty, Bool.false_or]

/-- In the table of tracked keys, the bit of a key is that of its mask and no other. -/
theorem has_of_mem_trackedKeys (i : Fin 16) :
    ∀ p ∈ trackedKeys, p.2.has i = decide (p.1 = keyOf i) := by
  revert i
  decide

theorem keyOf_mem_trackedKeys (i : Fin 16) : keyOf i ∈ trackedKeys.map Prod.fst := by
  revert i
  decide

/-- Collected over keys that are listed with their own bit, a bit tells of its key. -/
theorem has_collect_of_listed {keys : List (VirtualKey × Mask)} {i : Fin 16}
    (listed : ∀ p ∈ keys, p.2.has i = decide (p.1 = keyOf i)) (test : VirtualKey → Bool) :
    (collect keys test).has i = (decide (keyOf i ∈ keys.map Prod.fst) && test (keyOf i)) := by
  rw [has_collect, Bool.eq_iff_iff, List.any_eq_true, Bool.and_eq_true, decide_eq_true_iff,
    List.mem_map]
  constructor
  · rintro ⟨p, hp, passed⟩
    rw [listed p hp, Bool.and_eq_true, decide_eq_true_iff] at passed
    obtain ⟨tested, key⟩ := passed
    rw [← key]
    exact ⟨⟨p, hp, rfl⟩, tested⟩
  · rintro ⟨⟨p, hp, key⟩, tested⟩
    refine ⟨p, hp, ?_⟩
    rw [listed p hp, key, tested, decide_eq_true rfl]
    rfl

/-- Collected over the tracked keys, each bit tells of its own key. -/
theorem has_collect_trackedKeys (test : VirtualKey → Bool) (i : Fin 16) :
    (collect trackedKeys test).has i = test (keyOf i) := by
  rw [has_collect_of_listed (has_of_mem_trackedKeys i), decide_eq_true (keyOf_mem_trackedKeys i),
    Bool.true_and]

/-- The bits of the two shift keys. -/
def shiftBits : List (Fin 16) := [0, 4]

/-- The bits of the control, meta and alt keys, with which a press is a chord and types nothing. -/
def chordBits : List (Fin 16) := [1, 2, 3, 5, 6, 7]

/-- The bit of caps lock. -/
def capsLockBit : Fin 16 := 14

/-- The bits of the three lock keys. -/
def lockBits : List (Fin 16) := [13, 14, 15]

/-- The bit is that of a lock. -/
def isLock (i : Fin 16) : Bool := lockBits.contains i

theorem isLock_iff {i : Fin 16} : isLock i = true ↔ i ∈ lockBits := by
  unfold isLock
  exact List.contains_iff_mem

theorem has_locks (i : Fin 16) : locks.has i = isLock i := by
  revert i
  decide

theorem keyOf_mem_lockKeys (i : Fin 16) :
    keyOf i ∈ lockKeys.map Prod.fst ↔ i ∈ lockBits := by
  revert i
  decide

theorem lockKeys_subset : lockKeys ⊆ trackedKeys := by
  decide

/-- Collected over the lock keys, the bits of the locks tell of their keys and the others are
clear. -/
theorem has_collect_lockKeys (test : VirtualKey → Bool) (i : Fin 16) :
    (collect lockKeys test).has i = (isLock i && test (keyOf i)) := by
  have listed : ∀ p ∈ lockKeys, p.2.has i = decide (p.1 = keyOf i) :=
    fun p hp => has_of_mem_trackedKeys i p (lockKeys_subset hp)
  have lock : decide (keyOf i ∈ lockKeys.map Prod.fst) = isLock i := by
    rw [Bool.eq_iff_iff, decide_eq_true_iff, keyOf_mem_lockKeys, isLock_iff]
  rw [has_collect_of_listed listed, lock]

/-- Input of a virtual key turns this bit. -/
def isTurnedBy (i : Fin 16) (vk : VirtualKey) : Prop := vk ∉ pointerKeys ∧ vk = keyOf i

instance (i : Fin 16) (vk : VirtualKey) : Decidable (isTurnedBy i vk) :=
  inferInstanceAs (Decidable (_ ∧ _))

theorem has_ofVirtual (vk : VirtualKey) (i : Fin 16) :
    ((ofVirtual? vk).getD empty).has i = decide (isTurnedBy i vk) := by
  unfold ofVirtual?
  by_cases pointer : vk ∈ pointerKeys
  · rw [if_pos pointer, Option.getD_none, has_empty, decide_eq_false fun h => h.1 pointer]
  · rw [if_neg pointer]
    have turned : isTurnedBy i vk ↔ vk = keyOf i := and_iff_right pointer
    cases found : trackedKeys.lookup vk with
    | none =>
      have other : vk ≠ keyOf i := by
        rintro rfl
        obtain ⟨p, hp, key⟩ := List.mem_map.1 (keyOf_mem_trackedKeys i)
        have ne := List.lookup_eq_none_iff.1 found p hp
        exact bne_iff_ne.1 ne key.symm
      rw [Option.getD_none, has_empty, decide_eq_false fun h => other h.2]
    | some m =>
      obtain ⟨pre, post, table, -⟩ := List.lookup_eq_some_iff.1 found
      have listed : (vk, m) ∈ trackedKeys := by
        rw [table]
        exact List.mem_append_right _ List.mem_cons_self
      rw [Option.getD_some, has_of_mem_trackedKeys i _ listed]
      exact decide_eq_decide.2 turned.symm

/-- The keys of the locks are no keys of the pointer, so that a lock is turned by its own key. -/
theorem isTurnedBy_lock_iff {i : Fin 16} (h : i ∈ lockBits) (vk : VirtualKey) :
    isTurnedBy i vk ↔ vk = keyOf i := by
  have apart : ∀ i ∈ lockBits, keyOf i ∉ pointerKeys := by decide
  constructor
  · exact fun turned => turned.2
  · rintro rfl
    exact ⟨apart i h, rfl⟩

/-- A mask less some bits is the mask itself exactly if it has none of them. -/
theorem diff_eq_self_iff {m bits : Mask} :
    m \ bits = m ↔ ∀ i : Fin 16, ¬ (m.has i = true ∧ bits.has i = true) := by
  have bitwise : ∀ i, (m \ bits).has i = m.has i ↔ ¬ (m.has i = true ∧ bits.has i = true) := by
    intro i
    rw [has_diff]
    cases m.has i <;> cases bits.has i <;> decide
  constructor
  · intro same i
    rw [← bitwise, same]
  · intro apart
    exact ext_bits fun i => (bitwise i).2 (apart i)

/-- The bits that two masks have outside the buttons are the same exactly if they agree there. -/
theorem diff_buttons_eq_iff {a b : Mask} :
    a \ buttons = b \ buttons ↔ ∀ i : Fin 16, i ∉ buttonBits → a.has i = b.has i := by
  constructor
  · intro h i other
    have clear : buttons.has i = false := Bool.eq_false_iff.2 (mt (has_buttons i).1 other)
    have same := congrArg (fun m => m.has i) h
    simpa [clear] using same
  · intro h
    refine ext_bits fun i => ?_
    rw [has_diff, has_diff]
    by_cases button : i ∈ buttonBits
    · rw [(has_buttons i).2 button, Bool.not_true, Bool.and_false, Bool.and_false]
    · rw [h i button]

/-- The button bits of two masks are the same exactly if they agree on each. -/
theorem inter_buttons_eq_iff {a b : Mask} :
    a &&& buttons = b &&& buttons ↔ ∀ i ∈ buttonBits, a.has i = b.has i := by
  constructor
  · intro h i button
    have same := congrArg (fun m => m.has i) h
    simpa [(has_buttons i).2 button] using same
  · intro h
    refine ext_bits fun i => ?_
    rw [has_inter, has_inter]
    by_cases button : i ∈ buttonBits
    · rw [h i button]
    · rw [Bool.eq_false_iff.2 (mt (has_buttons i).1 button), Bool.and_false, Bool.and_false]

end Mask

/-- The mask of character look-up has the held keys and, for the locks, those that are on. -/
theorem HeldKeys.has_typingMask (h : HeldKeys) (i : Fin 16) :
    h.typingMask.has i = (h.held.has i && !Mask.isLock i || h.toggled.has i) := by
  show ((h.held \ Mask.locks) ||| h.toggled).has i = _
  rw [Mask.has_union, Mask.has_diff, Mask.has_locks]

/-- The bit of a modifier or lock key. -/
def KeyCode.bit? : KeyCode → Option (Fin 16)
  | .shiftLeft => some 0
  | .controlLeft => some 1
  | .metaLeft => some 2
  | .altLeft => some 3
  | .shiftRight => some 4
  | .controlRight => some 5
  | .metaRight => some 6
  | .altRight => some 7
  | .numLock => some 13
  | .capsLock => some 14
  | .scrollLock => some 15
  | _ => none

namespace Capture.RawButton

/-- The bit of a raw button; the first index is the fourth button, and so is a missing one. -/
def bit? : RawButton → Option (Fin 16)
  | .left => some 8
  | .right => some 9
  | .middle => some 10
  | .indexed n => if n = 0 ∨ n = 1 then some 11 else if n = 2 then some 12 else none

theorem has_button (b : RawButton) (i : Fin 16) :
    (b.button.mask?.getD Mask.empty).has i = decide (b.bit? = some i) := by
  cases b with
  | left =>
    revert i
    decide
  | right =>
    revert i
    decide
  | middle =>
    revert i
    decide
  | indexed n =>
    show (Option.getD (Button.mask? (if n = 0 ∨ n = 1 then _ else _)) _).has i =
      decide ((if n = 0 ∨ n = 1 then _ else _) = some i)
    by_cases fourth : n = 0 ∨ n = 1
    · rw [if_pos fourth, if_pos fourth]
      revert i
      decide
    · rw [if_neg fourth, if_neg fourth]
      by_cases fifth : n = 2
      · rw [if_pos fifth, if_pos fifth]
        revert i
        decide
      · rw [if_neg fifth, if_neg fifth]
        exact Mask.has_empty i

end Capture.RawButton

end InputTap
