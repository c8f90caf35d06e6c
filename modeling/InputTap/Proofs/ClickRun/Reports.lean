import InputTap.Proofs.ClickRun.Expiry

/-!
# What releases and motion report

Releases and motion count nothing themselves. They report what the latest press or wheel notch has
counted (`latestCount`), and zero once that has expired; a motion that ends the count tells so
itself, while a release that ends it reports it one last time. After an expiry the next press begins
again at one, for either the count is lost or a wheel notch has come and the run has no button
(`IsSpent`). The thresholds may differ from call to call and the clock may run backwards.
-/

set_option autoImplicit false

namespace InputTap.ClickRun

open ClickCall

/-- One call in the life of a click run. -/
abbrev TimedStep : Type := Run.Step ClickRun Timed (Option Nat)

/-- What a press or a wheel notch reported. -/
def counted? (st : TimedStep) : Option Nat :=
  if st.input.2.isCounted then st.output else none

/-- The count that the latest press or wheel notch of a history reported, zero before the first. -/
def latestCount (calls : List Timed) : Nat :=
  ((Run.steps onTimed {} calls).filterMap counted?).getLast?.getD 0

/-- A press and a wheel notch report the count that they lead to. -/
theorem output_of_isCounted (r : ClickRun) {x : Timed} (counted : x.2.isCounted = true) :
    (r.onTimed x).2 = some (r.onTimed x).1.count := by
  obtain ⟨threshold, c⟩ := x
  cases c with
  | press b now p => rfl
  | wheel => rfl
  | release b now p => cases counted
  | motion now p => cases counted

theorem counted?_stepOf (r : ClickRun) (x : Timed) :
    counted? (Run.stepOf onTimed r x) =
      if x.2.isCounted then some (r.onTimed x).1.count else none := by
  show (if x.2.isCounted then (r.onTimed x).2 else none) = _
  cases counted : x.2.isCounted with
  | true => rw [if_pos rfl, if_pos rfl, output_of_isCounted r counted]
  | false => rfl

theorem latestCount_append_singleton (calls : List Timed) (x : Timed) :
    latestCount (calls ++ [x]) =
      if x.2.isCounted then (after (calls ++ [x])).count else latestCount calls := by
  unfold latestCount
  rw [Run.steps_append, List.filterMap_append, List.getLast?_append, Run.steps_cons,
    List.filterMap_cons, counted?_stepOf, after_append_singleton]
  cases x.2.isCounted with
  | true => rfl
  | false => rfl

/-- What was counted last is still there, unless it has expired. -/
theorem count_after_of_not_expired {calls : List Timed} (kept : ¬ Expired calls) :
    (after calls).count = latestCount calls := by
  induction calls using List.reverseRecOn with
  | nil => rfl
  | append_singleton calls x ih =>
    rw [latestCount_append_singleton]
    rw [expired_append_singleton] at kept
    cases counted : x.2.isCounted with
    | true => rw [if_pos rfl]
    | false =>
      have earlier : ¬ Expired calls := fun expired => kept ⟨counted, .inl expired⟩
      have own : ¬ EndsCount calls x := fun ends => kept ⟨counted, .inr ends⟩
      rw [if_neg Bool.false_ne_true, (count_after_idle calls counted).2 own, ih earlier]

theorem count_after_of_expired {calls : List Timed} (expired : Expired calls) :
    (after calls).count = 0 :=
  (count_eq_zero_iff calls).2 (.inr expired)

/-- Nothing is left that a press could lengthen: the count is lost, or the run has no button. -/
def IsSpent (r : ClickRun) : Prop := r.count = 0 ∨ r.button = none

/-- The call that ends the count leaves the run spent. -/
theorem isSpent_of_endsCount {calls : List Timed} {x : Timed} (ends : EndsCount calls x) :
    IsSpent (after (calls ++ [x])) := by
  have idle : x.2.isCounted = false := by
    obtain ⟨threshold, c⟩ := x
    cases c with
    | press b now p => exact ends.elim
    | wheel => exact ends.elim
    | release b now p => rfl
    | motion now p => rfl
  exact .inl ((count_after_idle calls idle).1 ends)

/-- Until the next press a spent run stays spent. -/
theorem IsSpent.onTimed {r : ClickRun} (spent : IsSpent r) {x : Timed}
    (unpressed : x.2.pressAt? = none) : IsSpent (r.onTimed x).1 := by
  obtain ⟨threshold, c⟩ := x
  have idle : c.isCounted = false → IsSpent (r.onCall threshold c).1 := by
    intro uncounted
    rcases r.onCall_of_idle threshold uncounted with same | zero
    · rw [same]
      exact spent
    · rw [zero]
      exact .inl rfl
  cases c with
  | press b now p => cases unpressed
  | wheel => exact .inr rfl
  | release b now p => exact idle rfl
  | motion now p => exact idle rfl

theorem isSpent_after {before later : List Timed} {x : Timed} (ends : EndsCount before x)
    (unpressed : ∀ y ∈ later, y.2.pressAt? = none) : IsSpent (after (before ++ x :: later)) := by
  induction later using List.reverseRecOn with
  | nil => exact isSpent_of_endsCount ends
  | append_singleton later y ih =>
    rw [List.forall_mem_append, List.forall_mem_singleton] at unpressed
    rw [← List.cons_append, ← List.append_assoc, after_append_singleton]
    exact (ih unpressed.1).onTimed unpressed.2

/-- A press begins a spent run again. -/
theorem IsSpent.count_press {r : ClickRun} (spent : IsSpent r) (b : Button) (now : Millis)
    (p : Point) (threshold : Millis) : (r.press b now p threshold).count = 1 := by
  unfold press
  rcases spent with zero | loose
  · rw [zero]
    exact ite_self 1
  · have apart : r.continues b now threshold = false := by
      unfold continues
      rw [loose]
      rfl
    rw [apart]
    rfl

theorem count_press_le (r : ClickRun) (b : Button) (now : Millis) (p : Point)
    (threshold : Millis) : (r.press b now p threshold).count ≤ maxCount := by
  unfold press maxCount
  split <;> simp only <;> omega

/-- Motion is suppressed on the point of the latest press, and only there. -/
theorem output_motion_eq_none_iff (calls : List Timed) (threshold now : Millis) (p : Point) :
    ((after calls).onTimed (threshold, .motion now p)).2 = none ↔
      (latestPressAt calls).map Prod.snd = some p := by
  rw [← (press_after calls).2]
  show (onCall threshold (after calls) (.motion now p)).2 = none ↔ _
  unfold onCall motion? isAt
  by_cases here : (after calls).point = some p
  · simp [here]
  · by_cases late : threshold < (after calls).elapsed now <;> simp [here, late]

/-- A motion that is not suppressed reports the count that it leaves. -/
theorem output_motion {calls : List Timed} {threshold now : Millis} {p : Point} {n : Nat}
    (told : ((after calls).onTimed (threshold, .motion now p)).2 = some n) :
    n = (after (calls ++ [(threshold, .motion now p)])).count := by
  rw [after_append_singleton]
  cases moved : (after calls).motion? now p threshold with
  | none =>
    have answer : (after calls).onTimed (threshold, .motion now p) = (after calls, none) := by
      simp [onTimed, onCall, moved]
    rw [answer] at told
    cases told
  | some r =>
    have answer : (after calls).onTimed (threshold, .motion now p) = (r, some r.count) := by
      simp [onTimed, onCall, moved]
    rw [answer] at told ⊢
    exact (Option.some.inj told).symm

/-- What the next call after a history reports, whatever it is. -/
structure Reports (calls : List Timed) : Prop where
  /-- A release reports what was counted last, unless that has expired before. -/
  release : ∀ threshold b now p, ∃ n,
    ((after calls).onTimed (threshold, .release b now p)).2 = some n ∧
      (Expired calls → n = 0) ∧ (¬ Expired calls → n = latestCount calls)
  suppressed_iff : ∀ threshold now p,
    ((after calls).onTimed (threshold, .motion now p)).2 = none ↔
      (latestPressAt calls).map Prod.snd = some p
  /-- Motion that is reported tells what was counted last, unless that has expired before or with
  it. -/
  motion : ∀ threshold now p n, ((after calls).onTimed (threshold, .motion now p)).2 = some n →
    (Expired (calls ++ [(threshold, .motion now p)]) → n = 0) ∧
      (¬ Expired (calls ++ [(threshold, .motion now p)]) → n = latestCount calls)
  /-- The first press after a call that ended the count counts one. -/
  begins_again : ∀ before x later, calls = before ++ x :: later → EndsCount before x →
    (∀ y ∈ later, y.2.pressAt? = none) →
      ∀ threshold b now p, ((after calls).onTimed (threshold, .press b now p)).2 = some 1
  press : ∀ threshold b now p, ∃ n,
    ((after calls).onTimed (threshold, .press b now p)).2 = some n ∧ 1 ≤ n ∧ n ≤ 65535

/-- **A count is reported until it expires.** After every history, whatever its times and
thresholds, a release and a motion off the point of the latest press report what the latest press or
wheel notch counted, and zero if that has expired since; the first press after an expiry counts one;
and every press counts at least one and at most the greatest count. -/
theorem reports_until_expired (calls : List Timed) : Reports calls := by
  constructor
  case release =>
    intro threshold b now p
    exact ⟨_, rfl, count_after_of_expired, count_after_of_not_expired⟩
  case suppressed_iff => exact output_motion_eq_none_iff calls
  case motion =>
    intro threshold now p n told
    have left := output_motion told
    have last : latestCount (calls ++ [(threshold, .motion now p)]) = latestCount calls :=
      latestCount_append_singleton calls _
    refine ⟨fun expired => ?_, fun kept => ?_⟩
    · rw [left, count_after_of_expired expired]
    · rw [left, count_after_of_not_expired kept, last]
  case begins_again =>
    rintro before x later rfl ends unpressed threshold b now p
    exact congrArg some ((isSpent_after ends unpressed).count_press b now p threshold)
  case press =>
    intro threshold b now p
    exact ⟨_, rfl, count_press_pos _ b now p threshold, count_press_le _ b now p threshold⟩

/-- Late motion ends the count of a press, and the release after it reports that. -/
example : ((after [(500, .press .left 1000 ⟨7, 7⟩), (500, .motion 1600 ⟨8, 7⟩)]).onTimed
    (500, .release .left 1700 ⟨8, 7⟩)).2 = some 0 := by decide

end InputTap.ClickRun
