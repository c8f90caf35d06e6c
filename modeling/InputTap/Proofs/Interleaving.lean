import InputTap.Proofs.Run

/-!
# Interleavings of two streams

An `Interleaving` merges two lists and keeps the order of each. A run on an interleaving may be seen
through a relation that the inputs of one list do not disturb, and through outputs that these inputs
do not make. Then nothing is seen of them: `Interleaving.run_left` compares the run with one on the
other list alone.
-/

set_option autoImplicit false

namespace InputTap

variable {I : Type}

/-- The third list is a merge of the first two. -/
inductive Interleaving : List I → List I → List I → Prop
  | nil : Interleaving [] [] []
  | left (i : I) {ls rs is : List I} : Interleaving ls rs is → Interleaving (i :: ls) rs (i :: is)
  | right (i : I) {ls rs is : List I} : Interleaving ls rs is → Interleaving ls (i :: rs) (i :: is)

namespace Interleaving

variable {ls rs is : List I}

theorem symm (h : Interleaving ls rs is) : Interleaving rs ls is := by
  induction h with
  | nil => exact .nil
  | left i _ ih => exact .right i ih
  | right i _ ih => exact .left i ih

section Run

variable {S T O P A : Type} {f : S → I → S × O} {g : T → I → T × P} (R : S → T → Prop)
  (out : Run.Step S I O → List A) (out' : Run.Step T I P → List A)

/-- What one run on an interleaving shows is what another shows on the left list alone, if the
inputs of that list keep the two related and show the same, and the inputs of the right list change
nothing for the relation and show nothing. -/
theorem run_left (h : Interleaving ls rs is)
    (own : ∀ i ∈ ls, ∀ s t, R s t →
      R (f s i).1 (g t i).1 ∧ out (Run.stepOf f s i) = out' (Run.stepOf g t i))
    (other : ∀ i ∈ rs, ∀ s t, R s t → R (f s i).1 t ∧ out (Run.stepOf f s i) = [])
    {s : S} {t : T} (start : R s t) :
    R (Run.final f s is) (Run.final g t ls) ∧
      (Run.steps f s is).flatMap out = (Run.steps g t ls).flatMap out' := by
  induction h generalizing s t with
  | nil => exact ⟨start, rfl⟩
  | left i _ ih =>
    obtain ⟨kept, shown⟩ := own i List.mem_cons_self s t start
    obtain ⟨final, rest⟩ := ih (fun j hj => own j (List.mem_cons_of_mem i hj)) other kept
    refine ⟨final, ?_⟩
    rw [Run.steps_cons, Run.steps_cons, List.flatMap_cons, List.flatMap_cons, shown, rest]
  | right i _ ih =>
    obtain ⟨kept, silent⟩ := other i List.mem_cons_self s t start
    obtain ⟨final, rest⟩ := ih own (fun j hj => other j (List.mem_cons_of_mem i hj)) kept
    refine ⟨final, ?_⟩
    rw [Run.steps_cons, List.flatMap_cons, silent, List.nil_append, rest]

end Run

end Interleaving

end InputTap
