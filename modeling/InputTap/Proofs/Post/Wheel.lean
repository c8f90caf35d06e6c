import InputTap.Proofs.Post.Replay

/-!
# Posting turns of the wheel

A turn of the wheel changes its sign twice, when it is captured and when it is posted, and it is
multiplied by what one notch scrolls by. Sixteen bits without a sign times sixteen bits with one fit
thirty-two with one, and so does the negation (`turn_inWord`), so that posting never saturates. Only
the least vertical turn is cut, when it is captured (`countedTurn`).
-/

set_option autoImplicit false

namespace InputTap

/-- How often one notch counts: once for a page, and otherwise once for each line that sixteen bits
can count. -/
def SystemState.notchCount (s : SystemState) : Nat :=
  if s.wheelScrollLines = pageScroll then 1 else min s.wheelScrollLines.toNat 65535

theorem SystemState.notchCount_eq_zero_iff (s : SystemState) :
    s.notchCount = 0 ↔ s.wheelScrollLines = 0 := by
  have zero_iff : s.wheelScrollLines = 0 ↔ s.wheelScrollLines.toNat = 0 := UInt32.toNat_inj.symm
  rw [zero_iff]
  unfold notchCount
  split
  · next page =>
    rw [page]
    decide
  · omega

open Capture

theorem Capture.Surroundings.toNat_amount (w : Surroundings) :
    w.scroll.2.toNat = w.system.notchCount := by
  unfold scroll SystemState.notchCount
  split
  · rfl
  · exact (Saturate.toNat_toUInt16 _).trans (Nat.min_comm _ _)

namespace Post

/-- The native turn as it is counted: the least vertical one counts as its neighbour. -/
def countedTurn (axis : WheelAxis) (delta : Int16) : Int :=
  if axis = .vertical ∧ delta = -32768 then -32767 else delta.toInt

theorem sign_countedTurn (axis : WheelAxis) (delta : Int16) :
    (countedTurn axis delta).sign = delta.toInt.sign := by
  unfold countedTurn
  split
  · next least =>
    rw [least.2]
    rfl
  · rfl

/-- A notch comes back as its counted turn. -/
theorem wheelReplay_eq (amount : UInt16) (axis : WheelAxis) (delta : Int16) :
    wheelReplay amount axis delta =
      .pointer { action := wheelAction axis, data := amount.toNat * countedTurn axis delta } := by
  cases axis with
  | horizontal =>
    have counted : countedTurn .horizontal delta = delta.toInt := if_neg fun h => by cases h.1
    rw [counted]
    rfl
  | vertical =>
    have counted : countedTurn .vertical delta = max (-32767) delta.toInt := by
      have delta_ge := delta.le_toInt
      unfold countedTurn
      split
      · next least =>
        rw [least.2]
        rfl
      · next above =>
        have least : delta.toInt ≠ -32768 := fun h => above ⟨rfl, Int16.toInt_inj.1 h⟩
        omega
    rw [counted]
    rfl

/-- A turn of the wheel goes to the dispatcher as one event, whoever listens and whatever is
held. -/
theorem offered_wheel {σ : Type} (n : Normalizer σ) (w : Surroundings) (axis : WheelAxis)
    (delta : Int16) (point : Point) (time : Millis) :
    ∃ clicks, (n.onInput (w, .wheel axis delta point time)).2.offered =
      [⟨w.stamp time, n.held, .wheel
        { clicks, x := point.eventX, y := point.eventY, scroll := w.scroll.1, amount := w.scroll.2
          rotation := match axis with
            | .vertical => Saturate.negInt16 delta
            | .horizontal => delta
          axis }⟩] :=
  ⟨_, n.dispatcher.offered_deliver_of_lone rfl rfl⟩

/-- What is posted of a counted turn has the sign of the native turn, and is nothing only for no
turn or no lines. -/
theorem data_sign (s : SystemState) (axis : WheelAxis) (delta : Int16) :
    let data : Int := s.notchCount * countedTurn axis delta
    (data = 0 ↔ delta = 0 ∨ s.wheelScrollLines = 0) ∧
      (data = 0 ∨ data.sign = delta.toInt.sign) := by
  intro data
  have still : countedTurn axis delta = 0 ↔ delta = 0 := by
    rw [← Int.sign_eq_zero_iff_zero, sign_countedTurn, Int.sign_eq_zero_iff_zero, ← Int16.toInt_inj]
    rfl
  have nothing : data = 0 ↔ delta = 0 ∨ s.wheelScrollLines = 0 := by
    rw [Int.mul_eq_zero, still, Int.natCast_eq_zero, s.notchCount_eq_zero_iff, or_comm]
  refine ⟨nothing, ?_⟩
  by_cases counts : s.notchCount = 0
  · exact .inl (Int.mul_eq_zero.2 (.inl (Int.natCast_eq_zero.2 counts)))
  · have positive : (s.notchCount : Int).sign = 1 :=
      Int.sign_eq_one_of_pos (Int.natCast_pos.2 (Nat.pos_of_ne_zero counts))
    refine .inr ?_
    rw [Int.sign_mul, positive, Int.one_mul, sign_countedTurn]

/-- **A turn of the wheel is replayed as it was.** Whatever the state, the settings and the
consumer, a native turn is captured as one event. Posting it, moving the pointer or not, gives one
record about the same axis: the counted turn as often as one notch counts, with the sign of the
native turn, and nothing only for no turn or no lines. And for every event of the wheel, captured or
not, the product of amount and rotation and its negation fit the word of a record, so that neither
is saturated and the record has the exact product, turned for the vertical axis. -/
theorem wheel_replays_turn {σ : Type} :
    (∀ (n : Normalizer σ) (w : Surroundings) (axis : WheelAxis) (delta : Int16) (point : Point)
        (time : Millis),
      let data : Int := w.system.notchCount * countedTurn axis delta
      (∃ e : Event, (n.onInput (w, .wheel axis delta point time)).2.offered = [e] ∧
        e.type = .wheel ∧ ∀ (p : Poster) (moving : Bool),
          p.records e moving = .ok [.pointer { action := wheelAction axis, data }]) ∧
      (data = 0 ↔ delta = 0 ∨ w.system.wheelScrollLines = 0) ∧
      (data = 0 ∨ data.sign = delta.toInt.sign)) ∧
    ∀ (time : Millis) (mask : Mask) (d : WheelData) (p : Poster) (moving : Bool),
      let product : Int := d.amount.toNat * d.rotation.toInt
      InWord 32 product ∧ InWord 32 (-product) ∧
        Saturate.int32 product = product ∧ Saturate.int32 (-product) = -product ∧
        p.records ⟨time, mask, .wheel d⟩ moving =
          .ok [.pointer { action := wheelAction d.axis, data := desktopTurn d.axis product }] := by
  constructor
  · intro n w axis delta point time data
    obtain ⟨clicks, offered⟩ := offered_wheel n w axis delta point time
    have counted := wheelRecord_wheel w.scroll.2 axis delta clicks point.eventX point.eventY
      w.scroll.1
    rw [wheelReplay_eq, w.toNat_amount] at counted
    exact ⟨⟨_, offered, rfl, fun p moving => congrArg (fun r => Except.ok [r]) counted⟩,
      data_sign w.system axis delta⟩
  · intro time mask d p moving product
    obtain ⟨fits, back_fits⟩ := turn_inWord d.amount d.rotation
    refine ⟨fits, back_fits, Saturate.int32_of_inWord fits, Saturate.int32_of_inWord back_fits, ?_⟩
    show Except.ok [Poster.wheelRecord d] = _
    rw [wheelRecord_eq]

/-- The least vertical turn, by the greatest amount, comes back as its neighbour. -/
example : ({} : Poster).records ⟨0, .empty, .wheel
    { clicks := 1, x := 0, y := 0, scroll := .lines, amount := 65535
      rotation := Saturate.negInt16 (-32768), axis := .vertical }⟩ false =
    .ok [.pointer { action := .wheel, data := 65535 * countedTurn .vertical (-32768) }] := by
  decide

end Post

end InputTap
