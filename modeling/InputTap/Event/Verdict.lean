/-!
# Verdicts

The consumer answers each event with a `Verdict`. The verdict on a whole input is `consume` as soon
as one of its events was consumed.
-/

set_option autoImplicit false

namespace InputTap

/-- Whether an input goes on to the desktop or is withheld from it. -/
inductive Verdict
  | pass
  | consume
deriving DecidableEq, Inhabited

namespace Verdict

def isConsumed (v : Verdict) : Bool := v == .consume

/-- Consumes when either verdict does. -/
def or : Verdict → Verdict → Verdict
  | .pass, v => v
  | .consume, _ => .consume

@[simp] theorem isConsumed_or (a b : Verdict) :
    (a.or b).isConsumed = (a.isConsumed || b.isConsumed) := by
  cases a <;> cases b <;> rfl

def name : Verdict → String
  | .pass => "Pass"
  | .consume => "Consume"

end Verdict

end InputTap
