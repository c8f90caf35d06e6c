import InputTap.Event.Basic
import InputTap.Event.Verdict

/-!
# Consume policies

A `ConsumePolicy` names the keys whose presses and releases are withheld from the desktop.
-/

set_option autoImplicit false

namespace InputTap.Capture

/-- The keys to withhold. -/
structure ConsumePolicy where
  keys : List KeyCode
deriving DecidableEq, Inhabited

namespace ConsumePolicy

/-- Consumes presses and releases of the listed keys and passes all else. -/
def verdict (p : ConsumePolicy) (e : Event) : Verdict :=
  match e.kind with
  | .key .pressed d | .key .released d => if d.code ∈ p.keys then .consume else .pass
  | _ => .pass

end ConsumePolicy

end InputTap.Capture
