import InputTap.Event.Basic
import InputTap.Log
import InputTap.Pointer.Point

/-!
# Notices

A `Notice` is a fact about the hook that no event reports but the log does. `line` is its log line.
-/

set_option autoImplicit false

namespace InputTap.Capture

open Text.Numeral (decimal integer hexPadded)

/-- Where a session is in its life. -/
inductive Phase
  | idle
  | running
  | restarting
  | stopped
deriving DecidableEq, Inhabited

def Phase.name : Phase → String
  | .idle => "Idle"
  | .running => "Running"
  | .restarting => "Restarting"
  | .stopped => "Stopped"

/-- A fact for the log. -/
inductive Notice
  | hookEnabled (held : Mask)
  | hookDisabled
  | restarting
  | restarted
  | heldChanged (before after : Mask)
  | outsideRunning (phase : Phase)
  | key (action : KeyAction) (vk : VirtualKey) (code : KeyCode)
  | unindexedButton
  | countAtMaximum (button : Button)
  | button (action : MouseAction) (point : Point) (button : Button) (clicks : Nat)
  | motion (action : MouseAction) (data : MouseData)
  | motionSuppressed
  | wheel (rotation : Int16) (amount : UInt16) (axis : WheelAxis)
  | unrecognized (message : UInt32)
deriving DecidableEq, Inhabited

namespace Notice

/-- A button in logs. -/
def buttonText : Button → String
  | .left => "Left"
  | .right => "Right"
  | .middle => "Middle"
  | .button4 => "Button4"
  | .button5 => "Button5"
  | .extra n => "Extra(" ++ decimal n.toNat ++ ")"

/-- A pointer payload in logs. -/
def mouseText (d : MouseData) : String :=
  "MouseData \x7b button: " ++
    (d.button.elim "None" fun b => "Some(" ++ buttonText b ++ ")") ++
    ", clicks: " ++ decimal d.clicks ++ ", x: " ++ integer d.x.toInt ++
    ", y: " ++ integer d.y.toInt ++ " \x7d"

/-- The log line of a notice. -/
def line : Notice → Log.Line
  | .hookEnabled held => ⟨.info, "hook enabled modifiers=" ++ held.hexText⟩
  | .hookDisabled => ⟨.info, "hook disabled"⟩
  | .restarting => ⟨.info, "restarting native hooks"⟩
  | .restarted => ⟨.debug, "native hooks restarted"⟩
  | .heldChanged before after =>
    ⟨.warn, "modifier state changed across hook restart before=" ++ before.hexText ++
      " after=" ++ after.hexText⟩
  | .outsideRunning phase =>
    ⟨.trace, "raw input outside running session passed through state=" ++ phase.name⟩
  | .key action vk code =>
    ⟨.debug, "key " ++ hexPadded .upper 2 vk.toNat ++
      (if action = .released then " released" else " pressed") ++ ", keycode " ++ code.name⟩
  | .unindexedButton => ⟨.debug, "extra mouse button without an index, reported as button 4"⟩
  | .countAtMaximum b =>
    ⟨.warn, "click count overflow, holding at maximum button=" ++ decimal b.number.toNat⟩
  | .button action point b clicks =>
    ⟨.debug, (if action = .released then "button released at " else "button pressed at ") ++
      point.text ++ " button=" ++ decimal b.number.toNat ++ " clicks=" ++ decimal clicks⟩
  | .motion action data =>
    ⟨.trace, "pointer motion kind=" ++ (EventType.mouse action).name ++ "(" ++ mouseText data ++
      ")"⟩
  | .motionSuppressed => ⟨.trace, "motion at last click point suppressed"⟩
  | .wheel rotation amount axis =>
    ⟨.debug, "wheel rotation=" ++ integer rotation.toInt ++ " amount=" ++ decimal amount.toNat ++
      " direction=" ++ axis.name⟩
  | .unrecognized message =>
    ⟨.debug, "unhandled native input message " ++ hexPadded .upper 4 message.toNat⟩

end Notice

end InputTap.Capture
