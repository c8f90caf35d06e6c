import InputTap.Key.Virtual
import InputTap.Text.Numeral

/-!
# Native input records

A `Record` is one piece of input as the desktop takes it in: a key going down or up, or an action of
the pointer with its displacement and its extra datum.
-/

set_option autoImplicit false

namespace InputTap.Post

open Text.Numeral (decimal integer)

/-- A key going down or up. -/
structure KeyRecord where
  key : VirtualKey
  up : Bool
  extended : Bool
deriving DecidableEq, Inhabited

/-- What the pointer does. -/
inductive PointerAction
  | move
  | leftDown
  | leftUp
  | rightDown
  | rightUp
  | middleDown
  | middleUp
  | extraDown
  | extraUp
  | wheel
  | horizontalWheel
deriving DecidableEq, Inhabited

def PointerAction.name : PointerAction → String
  | .move => "Move"
  | .leftDown => "LeftDown"
  | .leftUp => "LeftUp"
  | .rightDown => "RightDown"
  | .rightUp => "RightUp"
  | .middleDown => "MiddleDown"
  | .middleUp => "MiddleUp"
  | .extraDown => "XDown"
  | .extraUp => "XUp"
  | .wheel => "Wheel"
  | .horizontalWheel => "HWheel"

/-- An action of the pointer. -/
structure PointerRecord where
  action : PointerAction
  /-- The normalized position of a motion. -/
  dx : Int := 0
  dy : Int := 0
  /-- The number of an extra button or the turn of the wheel. -/
  data : Int := 0
deriving DecidableEq, Inhabited

/-- One piece of native input. -/
inductive Record
  | key (r : KeyRecord)
  | pointer (r : PointerRecord)
deriving DecidableEq, Inhabited

namespace Record

/-- A record in logs. -/
def text : Record → String
  | .key r =>
    "Keyboard(KeyboardRecord \x7b virtual_key: " ++ decimal r.key.toNat ++
      ", key_up: " ++ (if r.up then "true" else "false") ++
      ", extended: " ++ (if r.extended then "true" else "false") ++ " \x7d)"
  | .pointer r =>
    "Mouse(MouseRecord \x7b dx: " ++ integer r.dx ++ ", dy: " ++ integer r.dy ++
      ", data: " ++ integer r.data ++ ", action: " ++ r.action.name ++ " \x7d)"

/-- The record moves the pointer. -/
def isMove : Record → Bool
  | .pointer r => r.action == .move
  | .key _ => false

end Record

end InputTap.Post
