import InputTap.Proofs.ClickRun.Streak

/-!
# Counts that expire

A press or a wheel notch begins a count of at least one. Until the next of them the count can only
be lost: motion off the point of the latest press ends it, and so does a release of the button of
the run, where they come later after that press than the threshold in force. `Expired` says so of a
history in which every call has a threshold of its own, and `count_eq_zero_iff` says that a click
run counts zero for no other reason, but before the first count has begun.
-/

set_option autoImplicit false

namespace InputTap

namespace ClickCall

/-- A call with the threshold in force when it is made. -/
abbrev Timed : Type := Millis × ClickCall

/-- The time and the point of a call that is a press. -/
def pressAt? : ClickCall → Option (Millis × Point)
  | .press _ now p => some (now, p)
  | _ => none

theorem pressAt?_of_idle {c : ClickCall} (idle : c.isCounted = false) : c.pressAt? = none := by
  cases c with
  | press b now p => cases idle
  | wheel => cases idle
  | release b now p => rfl
  | motion now p => rfl

/-- The button that a call gives the run; a wheel notch leaves it none. -/
def runButton? : ClickCall → Option (Option Button)
  | .press b _ _ => some (some b)
  | .wheel => some none
  | _ => none

/-- The time and the point of the latest press of a history. -/
def latestPressAt (calls : List Timed) : Option (Millis × Point) :=
  (calls.filterMap fun x => x.2.pressAt?).getLast?

/-- The button of the latest press of a history, unless a wheel notch has come since. -/
def runButton (calls : List Timed) : Option Button :=
  (calls.filterMap fun x => x.2.runButton?).getLast?.getD none

/-- The time since the latest press of a history, or since the start of the clock. -/
def sincePress (calls : List Timed) (now : Millis) : Millis :=
  now - ((latestPressAt calls).map Prod.fst).getD 0

/-- The call ends the count that a history has left: it is motion off the point of the latest press
or a release of the button of the run, and it comes too late. -/
def EndsCount (calls : List Timed) : Timed → Prop
  | (threshold, .motion now p) =>
    (latestPressAt calls).map Prod.snd ≠ some p ∧ threshold < sincePress calls now
  | (threshold, .release b now _) =>
    runButton calls = some b ∧ threshold < sincePress calls now
  | _ => False

/-- Some call since the latest press or wheel notch has ended the count. -/
def Expired (calls : List Timed) : Prop :=
  ∃ before x after, calls = before ++ x :: after ∧
    (∀ y ∈ x :: after, y.2.isCounted = false) ∧ EndsCount before x

/-- A history has expired with its last call, or it had before and the call has not counted. -/
theorem expired_append_singleton (calls : List Timed) (x : Timed) :
    Expired (calls ++ [x]) ↔ x.2.isCounted = false ∧ (Expired calls ∨ EndsCount calls x) := by
  constructor
  · rintro ⟨before, y, after, split, idle, ends⟩
    rcases List.eq_nil_or_concat after with rfl | ⟨rest, z, rfl⟩
    · obtain ⟨rfl, last⟩ := List.append_inj' split rfl
      obtain rfl := List.singleton_inj.1 last
      exact ⟨idle x List.mem_cons_self, .inr ends⟩
    · rw [List.concat_eq_append, ← List.cons_append, ← List.append_assoc] at split
      obtain ⟨rfl, last⟩ := List.append_inj' split rfl
      obtain rfl := List.singleton_inj.1 last
      have rest_idle : ∀ y' ∈ y :: rest, y'.2.isCounted = false := by
        intro y' hy'
        apply idle
        rw [List.concat_eq_append, ← List.cons_append]
        exact List.mem_append_left _ hy'
      have last_idle : x.2.isCounted = false := by
        apply idle
        simp
      exact ⟨last_idle, .inl ⟨before, y, rest, rfl, rest_idle, ends⟩⟩
  · rintro ⟨idle, ⟨before, y, after, rfl, earlier, ends⟩ | ends⟩
    · refine ⟨before, y, after ++ [x], by simp, ?_, ends⟩
      intro y' hy'
      rw [← List.cons_append, List.mem_append, List.mem_singleton] at hy'
      rcases hy' with hy' | rfl
      · exact earlier y' hy'
      · exact idle
    · refine ⟨calls, x, [], rfl, ?_, ends⟩
      intro y hy
      rw [List.mem_singleton.1 hy]
      exact idle

end ClickCall

namespace ClickRun

open ClickCall

/-- Answers a call under its threshold. -/
def onTimed (r : ClickRun) (x : Timed) : ClickRun × Option Nat := r.onCall x.1 x.2

/-- The click run after a history of calls. -/
def after (calls : List Timed) : ClickRun := Run.final onTimed {} calls

theorem after_append_singleton (calls : List Timed) (x : Timed) :
    after (calls ++ [x]) = ((after calls).onTimed x).1 :=
  Run.final_append _ calls [x]

/-- Releases and motion leave the run, or end its count and nothing else. -/
theorem onCall_of_idle (r : ClickRun) (threshold : Millis) {c : ClickCall}
    (idle : c.isCounted = false) :
    (r.onCall threshold c).1 = r ∨ (r.onCall threshold c).1 = { r with count := 0 } := by
  cases c with
  | press b now p => cases idle
  | wheel => cases idle
  | release b now p => exact (onCall_idle rfl rfl).imp_right And.right
  | motion now p => exact (onCall_idle rfl rfl).imp_right And.right

/-- Releases and motion leave the button, the time and the point. -/
theorem marks_onCall_of_idle (r : ClickRun) (threshold : Millis) {c : ClickCall}
    (idle : c.isCounted = false) :
    (r.onCall threshold c).1.button = r.button ∧ (r.onCall threshold c).1.time = r.time ∧
      (r.onCall threshold c).1.point = r.point := by
  rcases r.onCall_of_idle threshold idle with same | zero
  · rw [same]
    exact ⟨rfl, rfl, rfl⟩
  · rw [zero]
    exact ⟨rfl, rfl, rfl⟩

/-- The run keeps the time and the point of the latest press. -/
theorem press_after (calls : List Timed) :
    (after calls).time = ((latestPressAt calls).map Prod.fst).getD 0 ∧
      (after calls).point = (latestPressAt calls).map Prod.snd := by
  have written : ∀ (r : ClickRun) (x : Timed),
      ((r.onTimed x).1.time, (r.onTimed x).1.point) =
        ((x.2.pressAt?).map fun m => (m.1, some m.2)).getD (r.time, r.point) := by
    rintro r ⟨threshold, c⟩
    cases c with
    | press b now p => rfl
    | wheel => rfl
    | release b now p =>
      have marks := marks_onCall_of_idle r threshold (c := .release b now p) rfl
      exact Prod.ext marks.2.1 marks.2.2
    | motion now p =>
      have marks := marks_onCall_of_idle r threshold (c := .motion now p) rfl
      exact Prod.ext marks.2.1 marks.2.2
  have last := Run.view_final_of_input (fun r : ClickRun => (r.time, r.point)) _ written {} calls
  have latest : (calls.filterMap fun x => x.2.pressAt?.map fun m => (m.1, some m.2)).getLast? =
      (latestPressAt calls).map fun m => (m.1, some m.2) := by
    unfold latestPressAt
    rw [← List.map_filterMap, List.getLast?_map]
  rw [latest] at last
  have time := congrArg Prod.fst last
  have point := congrArg Prod.snd last
  cases h : latestPressAt calls with
  | none => simpa [h, after] using And.intro time point
  | some m => simpa [h, after] using And.intro time point

/-- The run keeps the button of the latest press until a wheel notch comes. -/
theorem button_after (calls : List Timed) : (after calls).button = runButton calls := by
  refine Run.view_final_of_input (fun r : ClickRun => r.button) (fun x => x.2.runButton?) ?_ {}
    calls
  rintro r ⟨threshold, c⟩
  cases c with
  | press b now p => rfl
  | wheel => rfl
  | release b now p => exact (marks_onCall_of_idle r threshold rfl).1
  | motion now p => exact (marks_onCall_of_idle r threshold rfl).1

theorem elapsed_after (calls : List Timed) (now : Millis) :
    (after calls).elapsed now = sincePress calls now := by
  unfold elapsed sincePress
  rw [(press_after calls).1]

/-- A press counts at least itself. -/
theorem count_press_pos (r : ClickRun) (b : Button) (now : Millis) (p : Point)
    (threshold : Millis) : 1 ≤ (r.press b now p threshold).count := by
  unfold press maxCount
  split <;> simp only <;> omega

/-- A count begins with at least one. -/
theorem count_pos_of_isCounted {r : ClickRun} {x : Timed} (counted : x.2.isCounted = true) :
    0 < (r.onTimed x).1.count := by
  obtain ⟨threshold, c⟩ := x
  cases c with
  | press b now p => exact r.count_press_pos b now p threshold
  | wheel => exact Nat.one_pos
  | release b now p => cases counted
  | motion now p => cases counted

/-- Between the presses and the wheel notches, a call that ends the count makes it zero, and no
other call changes it. -/
theorem count_after_idle (calls : List Timed) {x : Timed} (idle : x.2.isCounted = false) :
    (EndsCount calls x → (after (calls ++ [x])).count = 0) ∧
      (¬ EndsCount calls x → (after (calls ++ [x])).count = (after calls).count) := by
  rw [after_append_singleton]
  obtain ⟨threshold, c⟩ := x
  cases c with
  | press b now p => cases idle
  | wheel => cases idle
  | release b now p =>
    have ends : EndsCount calls (threshold, .release b now p) ↔
        (after calls).button = some b ∧ threshold < (after calls).elapsed now := by
      rw [button_after, elapsed_after]
      rfl
    rw [ends]
    show (_ → ((after calls).release b now threshold).count = 0) ∧
      (_ → ((after calls).release b now threshold).count = _)
    unfold release
    exact ⟨fun late => by rw [if_pos late], fun kept => by rw [if_neg kept]⟩
  | motion now p =>
    have ends : EndsCount calls (threshold, .motion now p) ↔
        (after calls).point ≠ some p ∧ threshold < (after calls).elapsed now := by
      rw [(press_after calls).2, elapsed_after]
      rfl
    rw [ends]
    show (_ → (onCall threshold (after calls) (.motion now p)).1.count = 0) ∧
      (_ → (onCall threshold (after calls) (.motion now p)).1.count = _)
    by_cases here : (after calls).point = some p
    · have suppressed : (after calls).motion? now p threshold = none := by
        simp [motion?, isAt, here]
      simp [onCall, suppressed, here]
    · by_cases late : threshold < (after calls).elapsed now
      · have moved : (after calls).motion? now p threshold =
            some { after calls with count := 0 } := by
          simp [motion?, isAt, here, late]
        simp [onCall, moved, here, late]
      · have moved : (after calls).motion? now p threshold = some (after calls) := by
          simp [motion?, isAt, here, late]
        simp [onCall, moved, late]

/-- A click run counts zero exactly if nothing was counted yet, or what was counted last has
expired. -/
theorem count_eq_zero_iff (calls : List Timed) :
    (after calls).count = 0 ↔ (∀ x ∈ calls, x.2.isCounted = false) ∨ Expired calls := by
  induction calls using List.reverseRecOn with
  | nil => simp [after]
  | append_singleton calls x ih =>
    rw [expired_append_singleton, List.forall_mem_append, List.forall_mem_singleton]
    cases counted : x.2.isCounted with
    | true =>
      have positive : 0 < (after (calls ++ [x])).count := by
        rw [after_append_singleton]
        exact count_pos_of_isCounted counted
      refine iff_of_false (by omega) ?_
      rintro (⟨-, uncounted⟩ | ⟨uncounted, -⟩) <;> cases uncounted
    | false =>
      obtain ⟨zero, same⟩ := count_after_idle calls counted
      by_cases ends : EndsCount calls x
      · simp [zero ends, ends]
      · simp [same ends, ih, ends]

end ClickRun

end InputTap
