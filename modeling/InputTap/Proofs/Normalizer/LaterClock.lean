import InputTap.Proofs.Normalizer.History

/-!
# Input at a later time

Two runs of a new normalizer on the same inputs, the second a fixed time later, are compared. Once a
button was pressed the click run is that of the other run, only later, for it measures time from its
latest press (`clicksOf_later`). Before the first press the clock itself takes the place of that
time, and a wheel notch may lose its count to the later clock (`NotchAges`). That is the only thing
by which what is heard of the two runs can differ (`heard_later_iff`).
-/

set_option autoImplicit false

namespace InputTap

/-- The event at a later time. -/
def Event.later (d : Millis) (e : Event) : Event := { e with time := e.time + d }

/-- The kind of an event without the click count in it. -/
def EventKind.uncounted : EventKind → EventKind
  | .mouse a data => .mouse a { data with clicks := 0 }
  | .wheel data => .wheel { data with clicks := 0 }
  | kind => kind

/-- The event without the click count in it. -/
def Event.uncounted (e : Event) : Event := { e with kind := e.kind.uncounted }

namespace Event

variable (d time : Millis) (mask : Mask) (kinds : List EventKind)

theorem map_later_stamped :
    (stamped time mask kinds).map (later d) = stamped (time + d) mask kinds := by
  unfold stamped
  rw [List.map_map]
  rfl

theorem map_uncounted_stamped :
    (stamped time mask kinds).map uncounted = stamped time mask (kinds.map .uncounted) := by
  unfold stamped
  rw [List.map_map, List.map_map]
  rfl

theorem map_later_uncounted_stamped :
    (stamped time mask kinds).map (fun e => (e.later d).uncounted) =
      stamped (time + d) mask (kinds.map .uncounted) := by
  rw [← map_uncounted_stamped, ← map_later_stamped, List.map_map]
  rfl

theorem stamped_inj {kinds kinds' : List EventKind} :
    stamped time mask kinds = stamped time mask kinds' ↔ kinds = kinds' :=
  List.map_inj_right fun _ _ h => (Event.mk.inj h).2.2

end Event

namespace ClickRun

/-- The click run with its latest press at a later time. -/
def later (d : Millis) (r : ClickRun) : ClickRun := { r with time := r.time + d }

section Later

variable (d : Millis) (r : ClickRun) (b : Button) (now : Millis) (p : Point) (threshold : Millis)

theorem elapsed_later : (r.later d).elapsed (now + d) = r.elapsed now :=
  Nat.add_sub_add_right now d r.time

theorem press_later :
    (r.later d).press b (now + d) p threshold = (r.press b now p threshold).later d := by
  unfold press continues
  rw [elapsed_later]
  rfl

theorem release_later :
    (r.later d).release b (now + d) threshold = (r.release b now threshold).later d := by
  unfold release
  rw [elapsed_later]
  show (if r.button = some b ∧ threshold < r.elapsed now then _ else _) = _
  split <;> rfl

theorem motion?_later :
    (r.later d).motion? (now + d) p threshold = (r.motion? now p threshold).map (later d) := by
  unfold motion?
  rw [elapsed_later]
  show (if r.isAt p then _ else _) = _
  split
  · rfl
  · split <;> rfl

end Later

end ClickRun

namespace Capture

namespace RawInput

/-- The input at a later time. -/
def later (d : Millis) : RawInput → RawInput
  | .keyDown vk extended time => .keyDown vk extended (time + d)
  | .keyUp vk extended time => .keyUp vk extended (time + d)
  | .buttonDown b p time => .buttonDown b p (time + d)
  | .buttonUp b p time => .buttonUp b p (time + d)
  | .motion p time => .motion p (time + d)
  | .wheel axis delta p time => .wheel axis delta p (time + d)
  | .unrecognized message time => .unrecognized message (time + d)

section Later

variable (d : Millis) (raw : RawInput)

theorem time_later : (raw.later d).time = raw.time + d := by
  cases raw <;> rfl

theorem press?_later : (raw.later d).press? = raw.press? := by
  cases raw <;> rfl

theorem isNotch_later : (raw.later d).isNotch = raw.isNotch := by
  cases raw <;> rfl

theorem motionTime?_later : (raw.later d).motionTime? = raw.motionTime?.map (· + d) := by
  cases raw <;> rfl

theorem reportsCount_later : (raw.later d).reportsCount = raw.reportsCount := by
  cases raw <;> rfl

theorem startsCount?_later : (raw.later d).startsCount? = raw.startsCount? := by
  cases raw <;> rfl

end Later

end RawInput

section Inputs

variable (d threshold : Millis) {inputs : List RawInput}

theorem map_later_append (inputs : List RawInput) (raw : RawInput) :
    (inputs ++ [raw]).map (.later d) = inputs.map (.later d) ++ [raw.later d] := by
  rw [List.map_append, List.map_singleton]

theorem unpressed_later (h : ∀ r ∈ inputs, r.press? = none) :
    ∀ r ∈ inputs.map (RawInput.later d), r.press? = none := by
  simpa [RawInput.press?_later] using h

/-! ### The tracking -/

theorem keysAfter_later (h : HeldKeys) (raw : RawInput) :
    keysAfter h (raw.later d) = keysAfter h raw := by
  cases raw <;> rfl

theorem clicksAfter_later (r : ClickRun) (raw : RawInput) :
    clicksAfter threshold (r.later d) (raw.later d) = (clicksAfter threshold r raw).later d := by
  cases raw with
  | buttonDown b p time => exact r.press_later d b.button time p threshold
  | buttonUp b p time => exact r.release_later d b.button time threshold
  | motion p time =>
    show ((r.later d).motion? (time + d) p threshold).getD (r.later d) = _
    rw [r.motion?_later, Option.getD_map]
    rfl
  | wheel axis delta p time => rfl
  | keyDown vk extended time => rfl
  | keyUp vk extended time => rfl
  | unrecognized message time => rfl

theorem keys_trackedAfter_later (inputs : List RawInput) :
    (trackedAfter threshold (inputs.map (.later d))).keys =
      (trackedAfter threshold inputs).keys := by
  show (inputs.map (RawInput.later d)).foldl keysAfter {} = inputs.foldl keysAfter {}
  simp only [List.foldl_map, keysAfter_later]

/-- After the first press the click run of later input is the same, only later. -/
theorem clicksOf_later (h : ¬ ∀ r ∈ inputs, r.press? = none) :
    clicksOf threshold (inputs.map (.later d)) = (clicksOf threshold inputs).later d := by
  induction inputs using List.reverseRecOn with
  | nil => exact absurd (by simp) h
  | append_singleton inputs raw ih =>
    rw [map_later_append, clicksOf_append_singleton, clicksOf_append_singleton]
    by_cases before : ∀ r ∈ inputs, r.press? = none
    · -- the input is the first press, and it begins the run anew
      rw [clicksOf_unpressed before, clicksOf_unpressed (unpressed_later d before)]
      cases raw with
      | buttonDown b p time => rfl
      | _ => exact absurd (forall_mem_append_singleton.2 ⟨before, rfl⟩) h
    · rw [ih before, clicksAfter_later]

theorem point_trackedAfter_later (inputs : List RawInput) :
    (trackedAfter threshold (inputs.map (.later d))).clicks.point =
      (trackedAfter threshold inputs).clicks.point := by
  show (clicksOf threshold (inputs.map (.later d))).point = (clicksOf threshold inputs).point
  by_cases unpressed : ∀ r ∈ inputs, r.press? = none
  · rw [clicksOf_unpressed unpressed, clicksOf_unpressed (unpressed_later d unpressed)]
    rfl
  · rw [clicksOf_later d threshold unpressed]
    rfl

/-! ### The count of the wheel -/

theorem motionsSinceNotch_later (inputs : List RawInput) :
    motionsSinceNotch (inputs.map (.later d)) = (motionsSinceNotch inputs).map (· + d) := by
  induction inputs using List.reverseRecOn with
  | nil => rfl
  | append_singleton inputs raw ih =>
    rw [map_later_append, motionsSinceNotch_append_singleton, motionsSinceNotch_append_singleton,
      ih, raw.isNotch_later, raw.motionTime?_later]
    cases raw.isNotch with
    | true => rfl
    | false => cases raw.motionTime? <;> simp

theorem notchCounts_later (inputs : List RawInput) :
    NotchCounts threshold (inputs.map (.later d)) ↔
      (∃ r ∈ inputs, r.isNotch = true) ∧
        ∀ time ∈ motionsSinceNotch inputs, time + d ≤ threshold := by
  rw [notchCounts_iff, motionsSinceNotch_later, List.forall_mem_map]
  simp only [List.mem_map, exists_exists_and_eq_and, RawInput.isNotch_later]

/-- The count is the same at the later time unless it is kept now and motion is late then. -/
theorem notchCount_later_iff (inputs : List RawInput) :
    notchCount threshold (inputs.map (.later d)) = notchCount threshold inputs ↔
      ¬ (NotchCounts threshold inputs ∧
          ∃ time ∈ motionsSinceNotch inputs, threshold < time + d) := by
  have young : NotchCounts threshold (inputs.map (.later d)) ↔ NotchCounts threshold inputs ∧
      ¬ ∃ time ∈ motionsSinceNotch inputs, threshold < time + d := by
    rw [notchCounts_later, notchCounts_iff]
    push Not
    constructor
    · rintro ⟨turned, later⟩
      exact ⟨⟨turned, fun time h => (Nat.le_add_right time d).trans (later time h)⟩, later⟩
    · rintro ⟨⟨turned, -⟩, later⟩
      exact ⟨turned, later⟩
  unfold notchCount
  rw [if_congr young rfl rfl]
  by_cases counts : NotchCounts threshold inputs <;>
    by_cases aged : ∃ time ∈ motionsSinceNotch inputs, threshold < time + d <;>
      simp [counts, aged]

end Inputs

/-- Before any press of a button, an input that reports the count of the latest wheel notch, which
motion has left while it was young on the clock: at the later time motion would have ended it. -/
structure NotchAges (threshold d : Millis) (before : List RawInput) (raw : RawInput) : Prop where
  unpressed : ∀ r ∈ before, r.press? = none
  reported : raw.reportsCount = true
  counted : NotchCounts threshold (before ++ [raw])
  aged : ∃ time ∈ motionsSinceNotch (before ++ [raw]), threshold < time + d

/-! ### The reports -/

namespace Tracking

variable {before before' after after' : Tracking} (w : Surroundings) (d : Millis) (raw : RawInput)

/-- Without the counts the reports depend on the keys and on the remembered point alone. -/
theorem uncounted_reports_later (keys : after'.keys = after.keys)
    (point : before'.clicks.point = before.clicks.point) :
    (before'.reports after' w false (raw.later d)).map EventKind.uncounted =
      (before.reports after w false raw).map EventKind.uncounted := by
  cases raw with
  | keyDown vk extended time => simp only [reports, RawInput.later, keys]
  | keyUp vk extended time => rfl
  | buttonDown b p time => rfl
  | buttonUp b p time =>
    simp only [reports, RawInput.later, point]
    split <;> rfl
  | motion p time =>
    simp only [reports, RawInput.later, point, keys]
    split <;> rfl
  | wheel axis delta p time => rfl
  | unrecognized message time => rfl

/-- With equal counts the reports are equal. -/
theorem reports_later (keys : after'.keys = after.keys)
    (point : before'.clicks.point = before.clicks.point)
    (count : before'.countReported after' (raw.later d) = before.countReported after raw) :
    before'.reports after' w false (raw.later d) = before.reports after w false raw := by
  cases raw with
  | keyDown vk extended time => simp only [reports, RawInput.later, keys]
  | keyUp vk extended time => rfl
  | buttonDown b p time => simp only [reports, RawInput.later, Option.some.inj count]
  | buttonUp b p time => simp only [reports, RawInput.later, point, Option.some.inj count]
  | motion p time => simp only [reports, RawInput.later, point, keys, Option.some.inj count]
  | wheel axis delta p time => simp only [reports, RawInput.later, Option.some.inj count]
  | unrecognized message time => rfl

/-- Before the first press nothing is suppressed, and the reports tell the counts. -/
theorem countReported_of_reports (point : before.clicks.point = none)
    (point' : before'.clicks.point = none)
    (h : before'.reports after' w false (raw.later d) = before.reports after w false raw) :
    before'.countReported after' (raw.later d) = before.countReported after raw := by
  cases raw with
  | buttonDown b p time =>
    simpa [reports, RawInput.later, countReported] using h
  | buttonUp b p time =>
    simpa [reports, RawInput.later, countReported, point, point'] using h
  | motion p time =>
    simp only [reports, RawInput.later, point, point', reduceCtorEq, if_false, List.cons.injEq,
      EventKind.mouse.injEq, MouseData.mk.injEq, true_and, and_true] at h
    exact congrArg some h.2
  | wheel axis delta p time =>
    simpa [reports, RawInput.later, countReported] using h
  | keyDown vk extended time => rfl
  | keyUp vk extended time => rfl
  | unrecognized message time => rfl

end Tracking

section Reported

variable (w : Surroundings) (d : Millis) (before : List RawInput) (raw : RawInput)

theorem uncounted_reportsAfter_later :
    (reportsAfter w (before.map (.later d)) (raw.later d)).map EventKind.uncounted =
      (reportsAfter w before raw).map EventKind.uncounted := by
  unfold reportsAfter
  rw [← map_later_append]
  exact Tracking.uncounted_reports_later w d raw (keys_trackedAfter_later d _ _)
    (point_trackedAfter_later d _ _)

/-- An input whose count is the same at the later time reports the same. -/
theorem reportsAfter_later_of_count
    (count : countAfter w.threshold (before.map (.later d)) (raw.later d) =
      countAfter w.threshold before raw) :
    reportsAfter w (before.map (.later d)) (raw.later d) = reportsAfter w before raw := by
  unfold countAfter at count
  unfold reportsAfter
  rw [← map_later_append] at count ⊢
  exact Tracking.reports_later w d raw (keys_trackedAfter_later d _ _)
    (point_trackedAfter_later d _ _) count

variable {before}

/-- After the first press counts are the same at the later time. -/
theorem countAfter_later_of_pressed (pressed : ¬ ∀ r ∈ before, r.press? = none) :
    countAfter w.threshold (before.map (.later d)) (raw.later d) =
      countAfter w.threshold before raw := by
  have still : ¬ ∀ r ∈ before ++ [raw], r.press? = none := by
    intro unpressed
    exact pressed (forall_mem_append_singleton.1 unpressed).1
  unfold countAfter trackedAfter
  rw [← map_later_append, clicksOf_later d _ pressed, clicksOf_later d _ still]
  cases raw <;> rfl

/-- Before the first press an input reports its count. -/
theorem countAfter_later_of_reports (unpressed : ∀ r ∈ before, r.press? = none)
    (h : reportsAfter w (before.map (.later d)) (raw.later d) = reportsAfter w before raw) :
    countAfter w.threshold (before.map (.later d)) (raw.later d) =
      countAfter w.threshold before raw := by
  have point : (trackedAfter w.threshold before).clicks.point = none := by
    show (clicksOf w.threshold before).point = none
    rw [clicksOf_unpressed unpressed]
    rfl
  have point' := (point_trackedAfter_later d w.threshold before).trans point
  exact Tracking.countReported_of_reports w d raw point point' h

/-- Before the first press the count of an input is the same at the later time unless a notch
ages. -/
theorem countAfter_later_iff (unpressed : ∀ r ∈ before, r.press? = none) :
    countAfter w.threshold (before.map (.later d)) (raw.later d) =
        countAfter w.threshold before raw ↔ ¬ NotchAges w.threshold d before raw := by
  rw [countAfter_unpressed (unpressed_later d unpressed), countAfter_unpressed unpressed,
    raw.reportsCount_later, raw.startsCount?_later, ← map_later_append]
  cases reported : raw.reportsCount with
  | true =>
    have ages : NotchAges w.threshold d before raw ↔
        NotchCounts w.threshold (before ++ [raw]) ∧
          ∃ time ∈ motionsSinceNotch (before ++ [raw]), w.threshold < time + d :=
      ⟨fun h => ⟨h.counted, h.aged⟩, fun h => ⟨unpressed, reported, h.1, h.2⟩⟩
    rw [if_pos rfl, if_pos rfl, Option.some_inj, notchCount_later_iff, ages]
  | false =>
    refine iff_of_true rfl ?_
    intro ages
    rw [ages.reported] at reported
    cases reported

/-- An input reports the same at the later time unless a notch ages. -/
theorem reportsAfter_later_iff (before : List RawInput) :
    reportsAfter w (before.map (.later d)) (raw.later d) = reportsAfter w before raw ↔
      ¬ NotchAges w.threshold d before raw := by
  by_cases unpressed : ∀ r ∈ before, r.press? = none
  · rw [← countAfter_later_iff w d raw unpressed]
    exact ⟨countAfter_later_of_reports w d raw unpressed,
      reportsAfter_later_of_count w d before raw⟩
  · have count := countAfter_later_of_pressed w d raw unpressed
    refine iff_of_true (reportsAfter_later_of_count w d before raw count) ?_
    intro ages
    exact unpressed ages.unpressed

end Reported

namespace Normalizer

variable {σ : Type}

/-- **What depends on the clock itself.** Two new normalizers on the hook clock handle the same
inputs, one of them at a later time, with a consumer that passes everything. The consumer hears the
same, only later, exactly if none of the inputs lets a notch age: before any press of a button,
motion or a release reports the count of a wheel notch, which is lost once motion comes later than
the threshold on the clock. Even then nothing but click counts differ. -/
theorem heard_later_iff {w : Surroundings} (hw : w.options.clock = .hook) {c : Consumer σ}
    (passes : c.PassesAll) (d : Millis) (inputs : List RawInput) :
    (heard w c (inputs.map (.later d)) = (heard w c inputs).map (List.map (Event.later d)) ↔
      ∀ before raw after, inputs = before ++ raw :: after → ¬ NotchAges w.threshold d before raw) ∧
    (heard w c (inputs.map (.later d))).map (List.map Event.uncounted) =
      (heard w c inputs).map (List.map fun e => (e.later d).uncounted) := by
  induction inputs using List.reverseRecOn with
  | nil => simp [heard]
  | append_singleton inputs raw ih =>
    obtain ⟨same, uncounted⟩ := ih
    have kinds := uncounted_reportsAfter_later w d inputs raw
    rw [map_later_append, heard_append_singleton hw passes, heard_append_singleton hw passes,
      ← map_later_append, keys_trackedAfter_later, raw.time_later]
    simp only [List.map_append, List.map_singleton, Event.map_later_stamped]
    constructor
    · rw [forall_split_append_singleton, ← same, ← reportsAfter_later_iff]
      constructor
      · intro h
        obtain ⟨earlier, now⟩ := List.append_inj' h rfl
        exact ⟨earlier, (Event.stamped_inj _ _).1 (List.singleton_inj.1 now)⟩
      · rintro ⟨earlier, now⟩
        rw [earlier, now]
    · rw [uncounted, Event.map_uncounted_stamped, kinds, Event.map_later_uncounted_stamped]

/-- After a click nothing is lost, however late the clock: the wheel's count ends at the motion that
comes too long after the press. -/
theorem heard_later_after_click :
    let inputs : List RawInput :=
      [.buttonDown .left ⟨1, 1⟩ 10, .buttonUp .left ⟨1, 1⟩ 20, .wheel .vertical 120 ⟨1, 1⟩ 30,
        .motion ⟨2, 2⟩ 40, .motion ⟨3, 3⟩ 2000]
    ({} : Surroundings).options.clock = .hook ∧ Consumer.passing.PassesAll ∧
      heard {} .passing (inputs.map (.later 1000)) =
        (heard {} .passing inputs).map (List.map (Event.later 1000)) ∧
      ∀ before raw after, inputs = before ++ raw :: after →
        ¬ NotchAges ({} : Surroundings).threshold 1000 before raw := by
  intro inputs
  have same : heard {} .passing (inputs.map (.later 1000)) =
      (heard {} .passing inputs).map (List.map (Event.later 1000)) := by decide
  have spared := (heard_later_iff rfl Consumer.passesAll_passing 1000 inputs).1.1 same
  exact ⟨rfl, Consumer.passesAll_passing, same, spared⟩

/-- Motion shortly after a notch reports the count of the notch, but not so a second later. -/
theorem notch_count_lost_at_later_clock :
    let inputs : List RawInput := [.wheel .vertical 120 ⟨1, 1⟩ 10, .motion ⟨2, 2⟩ 20]
    heard {} .passing (inputs.map (.later 1000)) ≠
      (heard {} .passing inputs).map (List.map (Event.later 1000)) := by
  decide

end Normalizer

end Capture

end InputTap
