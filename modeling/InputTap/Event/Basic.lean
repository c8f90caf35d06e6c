import InputTap.Key.Code
import InputTap.Key.Virtual
import InputTap.Pointer.Button
import InputTap.System

/-!
# Events

An `Event` is what a consumer receives and what a poster turns into native input: a time, the mask
in force and a kind. A kind is a change of the hook itself, a keyboard action, a pointer action or
a wheel notch, each with its payload. `EventType` is the kind without its payload.
-/

set_option autoImplicit false

namespace InputTap

/-- What happened to a key. -/
inductive KeyAction
  | typed
  | pressed
  | released
deriving DecidableEq, Inhabited

/-- What happened to the pointer. -/
inductive MouseAction
  | clicked
  | pressed
  | released
  | moved
  | dragged
deriving DecidableEq, Inhabited

/-- The key of a keyboard event, and the character of a typed one. -/
structure KeyData where
  code : KeyCode
  rawCode : VirtualKey
  char : Option Char := none
deriving DecidableEq, Inhabited

/-- The pointer at a pointer event. -/
structure MouseData where
  button : Option Button
  clicks : Nat
  x : Int16
  y : Int16
deriving DecidableEq, Inhabited

/-- What one notch of the wheel scrolls by. -/
inductive ScrollUnit
  | lines
  | page
deriving DecidableEq, Inhabited

/-- The axis of a wheel. -/
inductive WheelAxis
  | vertical
  | horizontal
deriving DecidableEq, Inhabited

/-- A turn of the wheel; a positive rotation scrolls down or right. -/
structure WheelData where
  clicks : Nat
  x : Int16
  y : Int16
  scroll : ScrollUnit
  amount : UInt16
  rotation : Int16
  axis : WheelAxis
deriving DecidableEq, Inhabited

/-- What an event reports. -/
inductive EventKind
  | hookEnabled
  | hookDisabled
  | key (action : KeyAction) (data : KeyData)
  | mouse (action : MouseAction) (data : MouseData)
  | wheel (data : WheelData)
deriving DecidableEq, Inhabited

/-- What an event reports, without the payload. -/
inductive EventType
  | hookEnabled
  | hookDisabled
  | key (action : KeyAction)
  | mouse (action : MouseAction)
  | wheel
deriving DecidableEq, Inhabited

/-- Something that happened to the hook, the keyboard or the pointer. -/
structure Event where
  time : Millis
  mask : Mask
  kind : EventKind
deriving DecidableEq, Inhabited

namespace EventType

/-- The number of an event type in reports. -/
def id : EventType → Nat
  | .hookEnabled => 1
  | .hookDisabled => 2
  | .key .typed => 3
  | .key .pressed => 4
  | .key .released => 5
  | .mouse .clicked => 6
  | .mouse .pressed => 7
  | .mouse .released => 8
  | .mouse .moved => 9
  | .mouse .dragged => 10
  | .wheel => 11

/-- The name of an event type. -/
def name : EventType → String
  | .hookEnabled => "HookEnabled"
  | .hookDisabled => "HookDisabled"
  | .key .typed => "KeyTyped"
  | .key .pressed => "KeyPressed"
  | .key .released => "KeyReleased"
  | .mouse .clicked => "MouseClicked"
  | .mouse .pressed => "MousePressed"
  | .mouse .released => "MouseReleased"
  | .mouse .moved => "MouseMoved"
  | .mouse .dragged => "MouseDragged"
  | .wheel => "MouseWheel"

/-- Every event type, by rising number. -/
def all : List EventType :=
  [.hookEnabled, .hookDisabled, .key .typed, .key .pressed, .key .released, .mouse .clicked,
   .mouse .pressed, .mouse .released, .mouse .moved, .mouse .dragged, .wheel]

/-- The event type of a name. -/
def ofName? (s : String) : Option EventType := all.find? fun t => t.name == s

end EventType

namespace ScrollUnit

/-- The number of a scroll unit in reports. -/
def id : ScrollUnit → Nat
  | .lines => 1
  | .page => 2

def name : ScrollUnit → String
  | .lines => "Unit"
  | .page => "Block"

end ScrollUnit

namespace WheelAxis

/-- The number of a wheel axis in reports. -/
def id : WheelAxis → Nat
  | .vertical => 3
  | .horizontal => 4

def name : WheelAxis → String
  | .vertical => "Vertical"
  | .horizontal => "Horizontal"

end WheelAxis

namespace EventKind

/-- The kind without its payload. -/
def type : EventKind → EventType
  | .hookEnabled => .hookEnabled
  | .hookDisabled => .hookDisabled
  | .key a _ => .key a
  | .mouse a _ => .mouse a
  | .wheel _ => .wheel

/-- The payload of a keyboard kind. -/
def keyData? : EventKind → Option KeyData
  | .key _ d => some d
  | _ => none

/-- The payload of a pointer kind. -/
def mouseData? : EventKind → Option MouseData
  | .mouse _ d => some d
  | _ => none

/-- The payload of a wheel kind. -/
def wheelData? : EventKind → Option WheelData
  | .wheel d => some d
  | _ => none

end EventKind

namespace Event

def type (e : Event) : EventType := e.kind.type

/-- The event is a press of the key. -/
def isPressOf (e : Event) (k : KeyCode) : Bool :=
  match e.kind with
  | .key .pressed d => d.code == k
  | _ => false

end Event

end InputTap
