/-!
# Hook faults

What can go wrong with a hook as a whole, and how each fault is told.
-/

set_option autoImplicit false

namespace InputTap.Capture

/-- A failure of the hook. -/
inductive HookFault
  /-- The native hook could not be installed, at the start or at a restart. -/
  | setupFailed (reason : String)
  /-- The session was started before. -/
  | alreadyStarted
  /-- A stop request did not reach the hook. -/
  | signalFailed (reason : String)
  /-- The platform has no hook. -/
  | unsupported (platform : String)
deriving DecidableEq, Inhabited

namespace HookFault

/-- The message of a fault. -/
def message : HookFault → String
  | .setupFailed reason => "failed to install native hook: " ++ reason
  | .alreadyStarted => "hook session has already been started"
  | .signalFailed reason => "failed to signal the hook thread: " ++ reason
  | .unsupported platform => "platform not supported: " ++ platform

/-- What a stop request fails with when the hook it was meant for is gone. -/
def hookGone : HookFault := .signalFailed "sending on a closed channel"

end HookFault

end InputTap.Capture
