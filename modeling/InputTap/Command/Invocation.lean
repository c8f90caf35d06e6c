import InputTap.Capture.Listener
import InputTap.Command.Reading
import InputTap.Pointer.Button
import InputTap.Post.Gesture

/-!
# Invocations

What a command line asks for, with every value in its own type. `Invocation.ofArgs` reads a line and
refuses one that lacks a verb or an operand; `PostAction.events?` gives the events of a post.
-/

set_option autoImplicit false

namespace InputTap.Command

/-- What to post. -/
inductive PostAction
  | key (target : KeyCode) (held : List KeyCode)
  | click (x y : Int16) (button : UInt16) (moving : Bool)
  | move (x y : Int16)
  | scroll (notches : Int16) (axis : WheelAxis)
deriving DecidableEq, Inhabited

/-- The events to post, each with whether it moves the pointer; there are none for a click with
button zero. -/
def PostAction.events? : PostAction → Option (List (Event × Bool))
  | .key target held => some ((Post.Gesture.chord held target).map fun e => (e, true))
  | .click x y button moving =>
    (Button.ofNumber? button).map fun b => (Post.Gesture.click b x y).map fun e => (e, moving)
  | .move x y => some [(Post.Gesture.moveTo x y, true)]
  | .scroll notches axis => some [(Post.Gesture.scroll notches axis, true)]

/-- What to do. -/
inductive Action
  /-- Listen, in the hook or beside it. -/
  | listen (listener : Capture.Listener) (beside : Bool)
  | properties
  | post (action : PostAction)
deriving DecidableEq, Inhabited

/-- What a command line asks for. -/
structure Invocation where
  /-- The path of the settings file, in place of the usual one. -/
  config : Option String := none
  /-- The threshold of a multiple click, in place of the settings'. -/
  multiClickTime : Option Millis := none
  /-- Events are stamped with the wall clock, whatever the settings say. -/
  epochTime : Bool := false
  action : Action
deriving DecidableEq, Inhabited

namespace Level

def key? (l : Level) (p : Parameter) : Option KeyCode := l.value? p >>= Value.key?

def keys (l : Level) (p : Parameter) : List KeyCode := (l.values p).filterMap Value.key?

def number? (l : Level) (p : Parameter) : Option Int := l.value? p >>= Value.number?

def coordinate? (l : Level) (p : Parameter) : Option Int16 := (l.number? p).map Int16.ofInt

/-- What a verb asks for. A verb that only leads to others asks for nothing. -/
def action? (l : Level) : Option Action :=
  match l.verb with
  | .listen =>
    some (.listen
      { policy := ⟨l.keys .consume⟩, stopKey := (l.key? .stopKey).getD .escape }
      (l.isGiven .beside))
  | .properties => some .properties
  | .postKey => do return .post (.key (← l.key? .key) (l.keys .held))
  | .postClick => do
    return .post (.click (← l.coordinate? .x) (← l.coordinate? .y)
      (UInt16.ofInt ((l.number? .button).getD 1)) (!l.isGiven .stay))
  | .postMove => do return .post (.move (← l.coordinate? .x) (← l.coordinate? .y))
  | .postScroll => do
    return .post (.scroll (← l.coordinate? .notches)
      (if l.isGiven .horizontal then .horizontal else .vertical))
  | .program | .post | .help => none

end Level

namespace Invocation

/-- The invocation of complete levels, the innermost of which says what to do. -/
def ofLevels? (ls : List Level) : Option Invocation := do
  let program ← ls.getLast?
  let action ← ls.head? >>= Level.action?
  return {
    config := program.value? .config >>= Value.text?
    multiClickTime := (program.number? .multiClickTime).map Int.toNat
    epochTime := program.isGiven .epochTime
    action }

/-- Reads a command line in an environment. -/
def ofArgs (args : List String) (env : String → Option String) : Except Diversion Invocation := do
  match ofLevels? (← levels args env) with
  | some i => return i
  | none => .error .misuse

end Invocation

end InputTap.Command
