import InputTap.Proofs.ClickRun.Calls
import Mathlib.Data.List.Chain
import Mathlib.Order.Bounds.Defs

/-!
# Multiple clicks

A streak is a stretch of a history without a wheel notch whose presses are all of one button and
follow each other within the threshold; releases and motion in between are no part of it. The count
that a press reports is the length of the longest streak that ends with it, up to the greatest
count (`reported_eq`). The click run itself does more: a late release and late motion end its
count without a trace in the button or the time. `Counts` is the invariant that makes this harmless,
for by then no press can lengthen the streak any more.
-/

set_option autoImplicit false

namespace InputTap

namespace ClickCall

variable {threshold : Millis}

/-- A stretch of calls whose presses are of one button, each at most the threshold after the one
before it, and no wheel notch comes between. -/
structure IsStreak (threshold : Millis) (b : Button) (calls : List ClickCall) : Prop where
  unbroken : ClickCall.wheel ∉ calls
  button : ∀ x ∈ presses calls, x.1 = b
  close : (presses calls).IsChain fun x y => y.2 - x.2 ≤ threshold

/-- The numbers of presses in the streaks of a button with which a history ends. -/
def streakLengths (threshold : Millis) (b : Button) (calls : List ClickCall) : Set Nat :=
  {n | ∃ run, run <:+ calls ∧ IsStreak threshold b run ∧ (presses run).length = n}

/-- The streak that a history ends with, by its button, the time of its latest press and its
length. -/
structure Streak where
  button : Button
  time : Millis
  length : Nat

/-- The length of a streak that a press continues, zero when it starts another. -/
def Streak.continued (threshold : Millis) (b : Button) (now : Millis) : Option Streak → Nat
  | none => 0
  | some s => if s.button = b ∧ now - s.time ≤ threshold then s.length else 0

/-- The length that a streak has for a button, which is zero for all buttons but its own. -/
def Streak.lengthOf (b : Button) : Option Streak → Nat
  | none => 0
  | some s => if s.button = b then s.length else 0

section Lengths

variable {b : Button} {now : Millis} {s : Streak}

theorem Streak.continued_of_near (h : s.button = b ∧ now - s.time ≤ threshold) :
    Streak.continued threshold b now (some s) = s.length :=
  if_pos h

theorem Streak.continued_of_not_near (h : ¬ (s.button = b ∧ now - s.time ≤ threshold)) :
    Streak.continued threshold b now (some s) = 0 :=
  if_neg h

theorem Streak.lengthOf_own (h : s.button = b) : Streak.lengthOf b (some s) = s.length :=
  if_pos h

theorem Streak.lengthOf_other (h : s.button ≠ b) : Streak.lengthOf b (some s) = 0 :=
  if_neg h

end Lengths

/-- The streak after one more call. Releases and motion are no part of it. -/
def Streak.next (threshold : Millis) (s : Option Streak) : ClickCall → Option Streak
  | .press b now _ => some ⟨b, now, Streak.continued threshold b now s + 1⟩
  | .wheel => none
  | _ => s

/-- The streak that a history ends with. -/
def streak (threshold : Millis) (calls : List ClickCall) : Option Streak :=
  calls.foldl (Streak.next threshold) none

@[simp] theorem streak_append_singleton (calls : List ClickCall) (c : ClickCall) :
    streak threshold (calls ++ [c]) = Streak.next threshold (streak threshold calls) c := by
  unfold streak
  rw [List.foldl_append]
  rfl

/-- The call is a press or a wheel notch, and so one that streaks are made of. -/
def isCounted : ClickCall → Bool
  | .press .. | .wheel => true
  | .release .. | .motion .. => false

/-- Releases and motion make no difference to a streak. -/
theorem streak_filter_isCounted (calls : List ClickCall) :
    streak threshold (calls.filter isCounted) = streak threshold calls := by
  unfold streak
  rw [List.foldl_filter]
  congr
  funext s c
  cases c <;> rfl

theorem isStreak_nil (b : Button) : IsStreak threshold b [] where
  unbroken := List.not_mem_nil
  button _ h := by cases h
  close := .nil

theorem zero_mem_streakLengths (b : Button) (calls : List ClickCall) :
    0 ∈ streakLengths threshold b calls :=
  ⟨[], List.nil_suffix, isStreak_nil b, rfl⟩

/-- A press lengthens a streak of its button unless it is late. -/
theorem isStreak_append_press_iff {b b' : Button} {now : Millis} {p : Point}
    {run : List ClickCall} :
    IsStreak threshold b (run ++ [.press b' now p]) ↔
      b' = b ∧ IsStreak threshold b run ∧ ∀ x ∈ (presses run).getLast?, now - x.2 ≤ threshold := by
  have pressed : presses (run ++ [.press b' now p]) = presses run ++ [(b', now)] :=
    presses_append _ _
  constructor
  · rintro ⟨unbroken, button, close⟩
    rw [pressed] at button close
    obtain ⟨before, -, last⟩ := List.isChain_append.1 close
    refine ⟨button (b', now) (by simp), ⟨?_, ?_, before⟩, ?_⟩
    · exact fun h => unbroken (List.mem_append_left _ h)
    · exact fun x hx => button x (List.mem_append_left _ hx)
    · exact fun x hx => last x hx (b', now) rfl
  · rintro ⟨rfl, ⟨unbroken, button, close⟩, last⟩
    refine ⟨?_, ?_, ?_⟩
    · simpa using unbroken
    · rw [pressed]
      intro x hx
      rcases List.mem_append.1 hx with hx | hx
      · exact button x hx
      · rw [List.mem_singleton.1 hx]
    · rw [pressed]
      refine List.isChain_append.2 ⟨close, .singleton _, fun x hx y hy => ?_⟩
      obtain rfl := Option.some.inj hy
      exact last x hx

theorem not_isStreak_append_wheel {b : Button} {run : List ClickCall} :
    ¬ IsStreak threshold b (run ++ [.wheel]) :=
  fun h => h.unbroken (by simp)

/-- A call that is neither a press nor a wheel notch is no part of a streak. -/
theorem isStreak_append_idle_iff {b : Button} {c : ClickCall} {run : List ClickCall}
    (hp : c.press? = none) (hw : c ≠ .wheel) :
    IsStreak threshold b (run ++ [c]) ↔ IsStreak threshold b run := by
  have idle : presses (run ++ [c]) = presses run := by
    rw [presses_append]
    simp [presses, hp]
  constructor
  · rintro ⟨unbroken, button, close⟩
    rw [idle] at button close
    exact ⟨fun h => unbroken (List.mem_append_left _ h), button, close⟩
  · rintro ⟨unbroken, button, close⟩
    refine ⟨?_, ?_, ?_⟩
    · simpa [unbroken] using hw.symm
    · rwa [idle]
    · rwa [idle]

/-- The streak after a history ends with the history's latest press. -/
theorem getLast?_presses_of_streak {calls : List ClickCall} {s : Streak}
    (h : streak threshold calls = some s) :
    (presses calls).getLast? = some (s.button, s.time) := by
  induction calls using List.reverseRecOn with
  | nil => cases h
  | append_singleton calls c ih =>
    rw [streak_append_singleton] at h
    rw [presses_append, List.getLast?_append]
    cases c with
    | press b now p =>
      obtain rfl := Option.some.inj h
      rfl
    | release b now p => exact ih h
    | motion now p => exact ih h
    | wheel => cases h

/-- The latest press of a stretch at the end of a history is that of the history. -/
theorem getLast?_presses_of_suffix {run calls : List ClickCall} (h : run <:+ calls)
    {x : Button × Millis} (hx : (presses run).getLast? = some x) :
    (presses calls).getLast? = some x := by
  obtain ⟨before, rfl⟩ := h
  rw [presses_append, List.getLast?_append, hx]
  rfl

section BeforePress

variable {b : Button} {now : Millis} {calls : List ClickCall}
  (longest : IsGreatest (streakLengths threshold b calls)
    (Streak.lengthOf b (streak threshold calls)))

include longest

/-- A press continues some streak of the length that is kept for it. -/
theorem exists_continued : ∃ run, run <:+ calls ∧ IsStreak threshold b run ∧
    (∀ x ∈ (presses run).getLast?, now - x.2 ≤ threshold) ∧
    (presses run).length = Streak.continued threshold b now (streak threshold calls) := by
  obtain ⟨run, suffix, isStreak, length⟩ := longest.1
  cases hs : streak threshold calls with
  | none => exact ⟨[], List.nil_suffix, isStreak_nil b, by simp [presses], rfl⟩
  | some s =>
    by_cases near : s.button = b ∧ now - s.time ≤ threshold
    · rw [hs, Streak.lengthOf_own near.1] at length
      refine ⟨run, suffix, isStreak, fun x hx => ?_, ?_⟩
      swap
      · rw [Streak.continued_of_near near, length]
      have last := getLast?_presses_of_suffix suffix hx
      rw [getLast?_presses_of_streak hs] at last
      obtain rfl := Option.some.inj last
      exact near.2
    · refine ⟨[], List.nil_suffix, isStreak_nil b, by simp [presses], ?_⟩
      rw [Streak.continued_of_not_near near]
      rfl

/-- A press continues no longer streak than the one that is kept for it. -/
theorem length_le_continued {run : List ClickCall} (suffix : run <:+ calls)
    (isStreak : IsStreak threshold b run)
    (close : ∀ x ∈ (presses run).getLast?, now - x.2 ≤ threshold) :
    (presses run).length ≤ Streak.continued threshold b now (streak threshold calls) := by
  have bound := longest.2 ⟨run, suffix, isStreak, rfl⟩
  cases hs : streak threshold calls with
  | none => rwa [hs] at bound
  | some s =>
    rw [hs] at bound
    cases hl : (presses run).getLast? with
    | none =>
      rw [List.getLast?_eq_none_iff.1 hl]
      exact Nat.zero_le _
    | some x =>
      -- The stretch has a press, so the latest of the history is its own.
      have last := getLast?_presses_of_suffix suffix hl
      rw [getLast?_presses_of_streak hs] at last
      obtain rfl := Option.some.inj last
      have own : s.button = b := isStreak.button _ (List.mem_of_getLast? hl)
      rw [Streak.lengthOf_own own] at bound
      rwa [Streak.continued_of_near ⟨own, close _ hl⟩]

end BeforePress

theorem streakLengths_append_idle {c : ClickCall} (hp : c.press? = none) (hw : c ≠ .wheel)
    (b : Button) (calls : List ClickCall) :
    streakLengths threshold b (calls ++ [c]) = streakLengths threshold b calls := by
  have idle : ∀ run, presses (run ++ [c]) = presses run := fun run => by
    rw [presses_append]
    simp [presses, hp]
  ext n
  constructor
  · rintro ⟨run, suffix, isStreak, length⟩
    rcases List.suffix_concat_iff.1 suffix with rfl | ⟨t, rfl, ht⟩
    · exact ⟨[], List.nil_suffix, isStreak, length⟩
    · rw [idle] at length
      exact ⟨t, ht, (isStreak_append_idle_iff hp hw).1 isStreak, length⟩
  · rintro ⟨run, suffix, isStreak, length⟩
    refine ⟨run ++ [c], List.suffix_concat_iff.2 (.inr ⟨run, rfl, suffix⟩),
      (isStreak_append_idle_iff hp hw).2 isStreak, ?_⟩
    rw [idle, length]

/-- The streak that is kept from call to call is the longest with which the history ends. -/
theorem isGreatest_streakLengths (b : Button) (calls : List ClickCall) :
    IsGreatest (streakLengths threshold b calls) (Streak.lengthOf b (streak threshold calls)) := by
  induction calls using List.reverseRecOn with
  | nil =>
    refine ⟨zero_mem_streakLengths b [], ?_⟩
    rintro n ⟨run, hrun, -, rfl⟩
    rw [List.suffix_nil.1 hrun]
    exact Nat.le_refl 0
  | append_singleton calls c longest =>
    rw [streak_append_singleton]
    cases c with
    | press b' now p =>
      show IsGreatest _ (Streak.lengthOf b (some ⟨b', now, _⟩))
      by_cases same : b' = b
      · rw [Streak.lengthOf_own same]
        subst same
        constructor
        · obtain ⟨run, suffix, isStreak, close, length⟩ := exists_continued longest
          refine ⟨run ++ [.press b' now p], List.suffix_concat_iff.2 (.inr ⟨run, rfl, suffix⟩),
            isStreak_append_press_iff.2 ⟨rfl, isStreak, close⟩, ?_⟩
          rw [presses_append, List.length_append, length]
          rfl
        · rintro n ⟨run, suffix, isStreak, rfl⟩
          rcases List.suffix_concat_iff.1 suffix with rfl | ⟨t, rfl, ht⟩
          · exact Nat.zero_le _
          · obtain ⟨-, before, close⟩ := isStreak_append_press_iff.1 isStreak
            rw [presses_append, List.length_append]
            exact Nat.succ_le_succ (length_le_continued longest ht before close)
      · rw [Streak.lengthOf_other same]
        refine ⟨zero_mem_streakLengths b _, ?_⟩
        rintro n ⟨run, suffix, isStreak, rfl⟩
        rcases List.suffix_concat_iff.1 suffix with rfl | ⟨t, rfl, -⟩
        · exact Nat.le_refl 0
        · exact absurd (isStreak_append_press_iff.1 isStreak).1 same
    | release b' now p =>
      rw [streakLengths_append_idle rfl (by simp)]
      exact longest
    | motion now p =>
      rw [streakLengths_append_idle rfl (by simp)]
      exact longest
    | wheel =>
      refine ⟨zero_mem_streakLengths b _, ?_⟩
      rintro n ⟨run, suffix, isStreak, rfl⟩
      rcases List.suffix_concat_iff.1 suffix with rfl | ⟨t, rfl, -⟩
      · exact Nat.le_refl 0
      · exact absurd isStreak not_isStreak_append_wheel

end ClickCall

namespace ClickRun

open ClickCall

variable {threshold : Millis}

/-- The click run agrees with the streak of its history, except that its count may have ended once
no press can continue the streak. -/
structure Counts (threshold now : Millis) (s : Option Streak) (r : ClickRun) : Prop where
  button : r.button = s.map Streak.button
  time : ∀ x ∈ s, r.time = x.time
  count : ∀ x ∈ s, r.count = min maxCount x.length ∨ threshold < now - x.time

/-- Time only helps the invariant, and a late call may end the count. -/
theorem Counts.idle {now later : Millis} {s : Option Streak} {r r' : ClickRun}
    (h : Counts threshold now s r) (le : now ≤ later)
    (hr : r' = r ∨ threshold < r.elapsed later ∧ r' = { r with count := 0 }) :
    Counts threshold later s r' := by
  have waited : ∀ x ∈ s, r.count = min maxCount x.length ∨ threshold < later - x.time :=
    fun x hx => (h.count x hx).imp_right fun late =>
      Nat.lt_of_lt_of_le late (Nat.sub_le_sub_right le x.time)
  rcases hr with rfl | ⟨late, rfl⟩
  · exact ⟨h.button, h.time, waited⟩
  · refine ⟨h.button, h.time, fun x hx => .inr ?_⟩
    have passed : threshold < later - r.time := late
    rwa [h.time x hx] at passed

/-- In step with the streak, a press counts the streak that it continues. -/
theorem Counts.count_press {now later : Millis} {s : Option Streak} {r : ClickRun}
    (h : Counts threshold now s r) (le : now ≤ later) (b : Button) (p : Point) :
    (r.press b later p threshold).count =
      min maxCount (Streak.continued threshold b later s + 1) := by
  show (if r.continues b later threshold then min maxCount (r.count + 1) else 1) = _
  have one : (1 : Nat) = min maxCount (0 + 1) := rfl
  cases s with
  | none =>
    have fresh : r.continues b later threshold = false := by
      unfold continues
      rw [h.button]
      rfl
    rw [fresh]
    exact one
  | some s =>
    have continues_iff : r.continues b later threshold = true ↔
        s.button = b ∧ later - s.time ≤ threshold := by
      unfold continues elapsed
      rw [h.button, h.time s rfl]
      simp
    by_cases near : s.button = b ∧ later - s.time ≤ threshold
    · rw [continues_iff.2 near, if_pos rfl, Streak.continued_of_near near]
      rcases h.count s rfl with counted | late
      · rw [counted]
        omega
      · -- An ended count means that the window has passed, but this press is in it.
        have passed := Nat.lt_of_lt_of_le late (Nat.sub_le_sub_right le s.time)
        exact absurd near.2 (Nat.not_le_of_lt passed)
    · rw [if_neg fun c => near (continues_iff.1 c), Streak.continued_of_not_near near]
      exact one

theorem counts_new (now : Millis) : Counts threshold now none {} where
  button := rfl
  time _ h := by cases h
  count _ h := by cases h

/-- Every call keeps the click run in step with the streak. -/
theorem Counts.onCall {now : Millis} {s : Option Streak} {r : ClickRun} {c : ClickCall}
    (h : Counts threshold now s r) (le : ∀ t, c.time? = some t → now ≤ t) :
    Counts threshold (c.time?.getD now) (Streak.next threshold s c) (r.onCall threshold c).1 := by
  cases c with
  | press b later p =>
    refine ⟨rfl, ?_, ?_⟩
    · intro x hx
      obtain rfl := Option.some.inj hx
      rfl
    · intro x hx
      obtain rfl := Option.some.inj hx
      exact .inl (h.count_press (le later rfl) b p)
  | release b later p => exact h.idle (le later rfl) (onCall_idle rfl rfl)
  | motion later p => exact h.idle (le later rfl) (onCall_idle rfl rfl)
  | wheel =>
    refine ⟨rfl, ?_, ?_⟩
    · intro x hx
      cases hx
    · intro x hx
      cases hx

/-- After every ordered history the click run is in step with its streak. -/
theorem counts_final {calls : List ClickCall} (ordered : Ordered calls) :
    Counts threshold (clock calls) (streak threshold calls)
      (Run.final (onCall threshold) {} calls) := by
  induction calls using List.reverseRecOn with
  | nil => exact counts_new _
  | append_singleton calls c ih =>
    rw [streak_append_singleton, clock_append_singleton, Run.final_append]
    have before := ih (ordered.sublist (List.sublist_append_left calls [c]))
    exact before.onCall fun t ht => ordered.clock_le ht

/-- The count that a press reports after a history. -/
def reported (threshold : Millis) (calls : List ClickCall) (b : Button) (now : Millis)
    (p : Point) : Option Nat :=
  (onCall threshold (Run.final (onCall threshold) {} calls) (.press b now p)).2

theorem reported_eq {calls : List ClickCall} {b : Button} {now : Millis} {p : Point}
    (ordered : Ordered (calls ++ [.press b now p])) :
    reported threshold calls b now p =
      some (min maxCount (Streak.continued threshold b now (streak threshold calls) + 1)) := by
  have before := ordered.sublist (List.sublist_append_left calls [.press b now p])
  have counts : Counts threshold _ (streak threshold calls) _ := counts_final before
  exact congrArg some (counts.count_press (ordered.clock_le rfl) b p)

/-- **A press counts its streak.** In every history whose clock never runs backwards, a press
reports the length of the longest streak that ends with it, up to the greatest count. Releases and
motion make no difference, wherever they occur and whatever they end: a history with the same
presses and wheel notches reports the same. -/
theorem press_counts_streak (threshold : Millis) (calls : List ClickCall)
    (ordered : Ordered calls) (pre post : List ClickCall) (b : Button) (now : Millis) (p : Point)
    (split : calls = pre ++ .press b now p :: post) :
    (∃ k, IsGreatest (streakLengths threshold b (pre ++ [.press b now p])) k ∧
        reported threshold pre b now p = some (min 65535 k)) ∧
      ∀ pre', Ordered (pre' ++ [.press b now p]) →
        pre'.filter isCounted = pre.filter isCounted →
        reported threshold pre' b now p = reported threshold pre b now p := by
  have until_press : Ordered (pre ++ [.press b now p]) := by
    refine ordered.sublist ?_
    rw [split]
    exact List.Sublist.append_left (List.singleton_sublist.2 List.mem_cons_self) pre
  constructor
  · have longest : IsGreatest (streakLengths threshold b (pre ++ [.press b now p])) _ :=
      isGreatest_streakLengths b _
    have own : Streak.lengthOf b (streak threshold (pre ++ [.press b now p])) =
        Streak.continued threshold b now (streak threshold pre) + 1 := by
      rw [streak_append_singleton]
      exact Streak.lengthOf_own rfl
    rw [own] at longest
    exact ⟨_, longest, reported_eq until_press⟩
  · intro pre' ordered' same
    rw [reported_eq until_press, reported_eq ordered', ← streak_filter_isCounted pre', same,
      streak_filter_isCounted]

/-- The late release at 600 ends the count, the press at 700 is late by itself, and the press at
1200, just within the threshold, is the second of its streak with and without the release. -/
theorem press_counts_streak_after_late_release :
    Ordered [.press .left 0 ⟨1, 1⟩, .release .left 600 ⟨1, 1⟩, .press .left 700 ⟨1, 1⟩,
        .press .left 1200 ⟨1, 1⟩] ∧
      (∃ k, IsGreatest (streakLengths 500 .left [.press .left 0 ⟨1, 1⟩, .release .left 600 ⟨1, 1⟩,
          .press .left 700 ⟨1, 1⟩, .press .left 1200 ⟨1, 1⟩]) k ∧ some 2 = some (min 65535 k)) ∧
      reported 500 [.press .left 0 ⟨1, 1⟩, .press .left 700 ⟨1, 1⟩] .left 1200 ⟨1, 1⟩ = some 2 := by
  have ordered : Ordered [.press .left 0 ⟨1, 1⟩, .release .left 600 ⟨1, 1⟩,
      .press .left 700 ⟨1, 1⟩, .press .left 1200 ⟨1, 1⟩] := by
    unfold Ordered
    decide
  have counts := press_counts_streak 500 _ ordered [.press .left 0 ⟨1, 1⟩,
    .release .left 600 ⟨1, 1⟩, .press .left 700 ⟨1, 1⟩] [] .left 1200 ⟨1, 1⟩ rfl
  refine ⟨ordered, counts.1, counts.2 _ ?_ rfl⟩
  unfold Ordered
  decide

end ClickRun

end InputTap
