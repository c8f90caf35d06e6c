import Mathlib.Data.List.DropRight
import Mathlib.Data.List.Induction
import Mathlib.Data.Nat.Bits

/-!
# Runs of a step function

A run takes a state through a list of inputs with a step function that answers every input.
`steps` lists the steps with the states before and after each, `final` is the state at the end.
`forall_steps` carries an invariant through a run, `forall₂_steps` a relation through two runs on
the same inputs, and `view_final` reads a part of the final state
off the history: where every step either overwrites that part or leaves it, it is what the last
overwriting step wrote. `switch_final` is its counterpart for a switch, which steps may also turn
over, and `queue_final` for a queue.
-/

set_option autoImplicit false

namespace InputTap

/-- What holds of each element of a longer list, given those before it, holds of each element of the
list and of the last one. -/
theorem forall_split_append_singleton {α : Type} {P : List α → α → Prop} (l : List α) (last : α) :
    (∀ before x after, l ++ [last] = before ++ x :: after → P before x) ↔
      (∀ before x after, l = before ++ x :: after → P before x) ∧ P l last := by
  constructor
  · intro h
    refine ⟨?_, h l last [] rfl⟩
    rintro before x after rfl
    exact h before x (after ++ [last]) (by simp)
  · rintro ⟨earlier, now⟩ before x after split
    rcases List.eq_nil_or_concat after with rfl | ⟨rest, y, rfl⟩
    · obtain ⟨rfl, one⟩ := List.append_inj' split rfl
      obtain rfl := List.singleton_inj.1 one
      exact now
    · rw [List.concat_eq_append, ← List.cons_append, ← List.append_assoc] at split
      exact earlier before x rest (List.append_inj' split rfl).1

end InputTap

namespace InputTap.Run

variable {S I O A : Type} {f : S → I → S × O}

/-- One step of a run. -/
structure Step (S I O : Type) where
  before : S
  input : I
  after : S
  output : O

/-- The step from a state on an input. -/
def stepOf (f : S → I → S × O) (s : S) (i : I) : Step S I O where
  before := s
  input := i
  after := (f s i).1
  output := (f s i).2

/-- The steps of a run, in order. -/
def steps (f : S → I → S × O) : S → List I → List (Step S I O)
  | _, [] => []
  | s, i :: is => stepOf f s i :: steps f (f s i).1 is

/-- The state at the end of a run. -/
def final (f : S → I → S × O) (s : S) (is : List I) : S :=
  is.foldl (fun s i => (f s i).1) s

@[simp] theorem final_nil (s : S) : final f s [] = s := rfl

@[simp] theorem final_cons (s : S) (i : I) (is : List I) :
    final f s (i :: is) = final f (f s i).1 is := rfl

@[simp] theorem steps_nil (s : S) : steps f s [] = [] := rfl

@[simp] theorem steps_cons (s : S) (i : I) (is : List I) :
    steps f s (i :: is) = stepOf f s i :: steps f (f s i).1 is := rfl

theorem final_append (s : S) (is js : List I) :
    final f s (is ++ js) = final f (final f s is) js :=
  List.foldl_append

theorem steps_append (s : S) (is js : List I) :
    steps f s (is ++ js) = steps f s is ++ steps f (final f s is) js := by
  induction is generalizing s with
  | nil => rfl
  | cons i is ih =>
    rw [List.cons_append, steps_cons, ih]
    rfl

/-- The steps of a run take the inputs one after the other. -/
@[simp] theorem map_input_steps (s : S) (is : List I) : (steps f s is).map Step.input = is := by
  induction is generalizing s with
  | nil => rfl
  | cons i is ih =>
    rw [steps_cons, List.map_cons, ih]
    rfl

/-- Every step of a run starts where some of the inputs have led. -/
theorem mem_steps_iff {s : S} {is : List I} {st : Step S I O} :
    st ∈ steps f s is ↔
      ∃ pre i post, is = pre ++ i :: post ∧ st = stepOf f (final f s pre) i := by
  constructor
  · intro h
    induction is generalizing s with
    | nil => cases h
    | cons i is ih =>
      rcases List.mem_cons.1 h with rfl | h
      · exact ⟨[], i, is, rfl, rfl⟩
      · obtain ⟨pre, j, post, rfl, rfl⟩ := ih h
        exact ⟨i :: pre, j, post, rfl, rfl⟩
  · rintro ⟨pre, i, post, rfl, rfl⟩
    rw [steps_append, steps_cons]
    exact List.mem_append_right _ List.mem_cons_self

section Invariants

variable (Inv : S → Prop) (keep : ∀ s i, Inv s → Inv (f s i).1)

include keep

theorem final_of_invariant {s : S} (h : Inv s) (is : List I) : Inv (final f s is) := by
  induction is generalizing s with
  | nil => exact h
  | cons i is ih => exact ih (keep s i h)

/-- What holds of each step that starts in the invariant holds of every step of a run. -/
theorem forall_steps {P : Step S I O → Prop} (holds : ∀ s i, Inv s → P (stepOf f s i)) {s : S}
    (h : Inv s) (is : List I) : ∀ st ∈ steps f s is, P st := by
  intro st hst
  obtain ⟨pre, i, post, -, rfl⟩ := mem_steps_iff.1 hst
  exact holds _ i (final_of_invariant Inv keep h pre)

/-- What brings about the invariant and cannot happen in it happens at most once in a run. -/
theorem countP_le_one {happens : Step S I O → Bool}
    (once : ∀ s i, happens (stepOf f s i) = true → ¬ Inv s ∧ Inv (f s i).1) (s : S)
    (is : List I) : (steps f s is).countP happens ≤ 1 := by
  induction is generalizing s with
  | nil => exact Nat.zero_le 1
  | cons i is ih =>
    rw [steps_cons]
    cases h : happens (stepOf f s i) with
    | false =>
      rw [List.countP_cons_of_neg (by rw [h]; exact Bool.false_ne_true)]
      exact ih _
    | true =>
      have never : ∀ st ∈ steps f (f s i).1 is, ¬ happens st = true :=
        forall_steps Inv keep (fun t j ht again => (once t j again).1 ht) (once s i h).2 is
      rw [List.countP_cons_of_pos h, List.countP_eq_zero.2 never]

end Invariants

/-- Two runs on the same inputs whose states stay related are related step by step. -/
theorem forall₂_steps {T P : Type} {g : T → I → T × P} (R : S → T → Prop)
    {Q : Step S I O → Step T I P → Prop} (keep : ∀ s t i, R s t → R (f s i).1 (g t i).1)
    (holds : ∀ s t i, R s t → Q (stepOf f s i) (stepOf g t i)) {s : S} {t : T} (h : R s t)
    (is : List I) : List.Forall₂ Q (steps f s is) (steps g t is) := by
  induction is generalizing s t with
  | nil => exact .nil
  | cons i is ih => exact .cons (holds s t i h) (ih (keep s t i h))

/-- If every step takes from the front of a queue and puts at its end, so does a whole run: nothing
is lost, taken twice or taken out of order. -/
theorem queue_final (queue : S → List A) (taken put : Step S I O → List A) {s : S} {is : List I}
    (conserved : ∀ st ∈ steps f s is, taken st ++ queue st.after = queue st.before ++ put st) :
    (steps f s is).flatMap taken ++ queue (final f s is) =
      queue s ++ (steps f s is).flatMap put := by
  induction is generalizing s with
  | nil => exact (List.append_nil _).symm
  | cons i is ih =>
    rw [steps_cons] at conserved
    have first : taken (stepOf f s i) ++ queue (f s i).1 = queue s ++ put (stepOf f s i) :=
      conserved _ List.mem_cons_self
    have rest := ih fun st hst => conserved st (List.mem_cons_of_mem _ hst)
    rw [steps_cons, final_cons, List.flatMap_cons, List.flatMap_cons, List.append_assoc, rest,
      ← List.append_assoc, first, List.append_assoc]

/-- A part of the state that a step either overwrites or leaves is what was written last. -/
theorem view_final (view : S → A) (write : Step S I O → Option A)
    (step : ∀ s i, view (f s i).1 = (write (stepOf f s i)).getD (view s)) (s : S) (is : List I) :
    view (final f s is) = ((steps f s is).filterMap write).getLast?.getD (view s) := by
  induction is using List.reverseRecOn with
  | nil => rfl
  | append_singleton is i ih =>
    rw [final_append, steps_append, List.filterMap_append, List.getLast?_append]
    show view (f (final f s is) i).1 = _
    rw [step, ih]
    cases h : write (stepOf f (final f s is) i) with
    | none => simp [h]
    | some a => simp [h]

/-- The same where what a step writes is read off its input. -/
theorem view_final_of_input (view : S → A) (write : I → Option A)
    (step : ∀ s i, view (f s i).1 = (write i).getD (view s)) (s : S) (is : List I) :
    view (final f s is) = (is.filterMap write).getLast?.getD (view s) := by
  have written : (steps f s is).filterMap (fun st => write st.input) = is.filterMap write := by
    conv_rhs => rw [← map_input_steps (f := f) s is, List.filterMap_map]
    rfl
  rw [view_final view (fun st => write st.input) step s is, written]

section Switches

variable (write : Step S I O → Option Bool) (flips : Step S I O → Bool)

/-- Where a switch stands after some steps: as it was last set, turned over once for each later step
that flips it. -/
def switchAt (start : Bool) (sts : List (Step S I O)) : Bool :=
  let flipped := (sts.rtakeWhile fun st => (write st).isNone).countP flips
  Bool.xor ((sts.filterMap write).getLast?.getD start) flipped.bodd

theorem switchAt_append_singleton (start : Bool) (sts : List (Step S I O)) (st : Step S I O) :
    switchAt write flips start (sts ++ [st]) =
      (write st).getD (Bool.xor (switchAt write flips start sts) (flips st)) := by
  unfold switchAt
  rw [List.filterMap_append, List.getLast?_append, List.rtakeWhile_concat]
  cases written : write st with
  | some set => simp [written]
  | none =>
    have odd : ∀ n, (n + (flips st).toNat).bodd = Bool.xor n.bodd (flips st) := by
      intro n
      cases flips st <;> simp
    have counted : [st].countP flips = (flips st).toNat := by
      cases h : flips st <;> simp [h]
    simp [written, List.countP_append, counted, odd]

/-- A switch that every step sets, flips or leaves stands where the history says. -/
theorem switch_final (view : S → Bool)
    (step : ∀ s i, view (f s i).1 =
      (write (stepOf f s i)).getD (Bool.xor (view s) (flips (stepOf f s i)))) (s : S)
    (is : List I) :
    view (final f s is) = switchAt write flips (view s) (steps f s is) := by
  induction is using List.reverseRecOn with
  | nil => simp [switchAt]
  | append_singleton is i ih =>
    rw [final_append, steps_append]
    show view (f (final f s is) i).1 = switchAt write flips (view s) (_ ++ [stepOf f _ i])
    rw [switchAt_append_singleton, step, ih]

/-- A switch that no step sets is turned over by every step that flips it. -/
theorem switchAt_of_never_set (start : Bool) (sts : List (Step S I O)) :
    switchAt (fun _ => none) flips start sts = Bool.xor start (sts.countP flips).bodd := by
  have all : sts.rtakeWhile (fun _ => true) = sts :=
    List.rtakeWhile_eq_self_iff.2 fun _ _ => rfl
  simp [switchAt, all]

end Switches

end InputTap.Run
