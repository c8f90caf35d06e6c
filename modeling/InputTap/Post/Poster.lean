import InputTap.Event.Basic
import InputTap.Key.Layout
import InputTap.Log
import InputTap.Pointer.Desktop
import InputTap.Post.Injector

/-!
# Posting events

A `Poster` turns events into native records and submits them. `records` builds the records of one
event: a key, a button behind a motion to its position, a motion, or a turn of the wheel; typed
characters, clicks and changes of the hook cannot be posted. With `moving` off nothing moves the
pointer. `post` submits the records in order and stops at the first refusal.
-/

set_option autoImplicit false

namespace InputTap.Post

/-- Why an event was not posted. No fault stands for a lack of memory: an event has two records at
most. -/
inductive PostFault
  | unsupportedType (type : EventType)
  | unmappedKey (key : KeyCode)
  | missingButton
  | injectionFailed (record : Record) (fault : InjectionFault)
deriving DecidableEq, Inhabited

namespace PostFault

/-- The message of a fault. -/
def message : PostFault → String
  | .unsupportedType t => "event type " ++ t.name ++ " cannot be posted"
  | .unmappedKey k => "key code " ++ k.name ++ " has no native virtual key"
  | .missingButton => "mouse button event without a button"
  | .injectionFailed _ f => "input injection failed: " ++ f.message

/-- The log line of a fault. -/
def line : PostFault → Log.Line
  | .unsupportedType t => ⟨.debug, "ignoring post of " ++ t.name⟩
  | .unmappedKey k => ⟨.warn, "unable to look up key code " ++ k.name⟩
  | .missingButton => ⟨.warn, "no button specified for mouse button event"⟩
  | .injectionFailed r f => ⟨.warn, "injection of " ++ r.text ++ " failed: " ++ f.message⟩

end PostFault

/-- The keys that are posted with the extended flag while a shift key is held. -/
def defaultExtendedKeys : List KeyCode :=
  [.arrowUp, .arrowDown, .arrowLeft, .arrowRight, .home, .endKey, .pageUp, .pageDown, .insert,
   .delete]

/-- What events are mapped to records with. -/
structure Poster where
  layout : Layout := .standard
  desktop : Desktop := .single
  extendedKeys : List KeyCode := defaultExtendedKeys

/-- The end of a post: the injector, the log lines and the outcome. -/
structure Posted (τ : Type) where
  injector : Injector τ
  log : List Log.Line
  result : Except PostFault Unit

namespace Poster

variable {τ : Type}

/-- The record of a key. -/
def keyRecord (p : Poster) (mask : Mask) (code : KeyCode) (up : Bool) :
    Except PostFault Record :=
  match p.layout.virtual? code with
  | none => .error (.unmappedKey code)
  | some key => .ok (.key { key, up, extended := mask.meets Mask.shift && code ∈ p.extendedKeys })

/-- The record of a motion to the position of an event. -/
def motionRecord (p : Poster) (d : MouseData) : Record :=
  let at_ := p.desktop.normalize d.x.toInt d.y.toInt
  .pointer { action := .move, dx := at_.1, dy := at_.2 }

/-- The records of a motion, none when the pointer is to stay. -/
def motionRecords (p : Poster) (moving : Bool) (d : MouseData) : List Record :=
  if moving then [p.motionRecord d] else []

/-- The record of a button going down or up. Buttons beyond the third are counted from the fourth
as the first. -/
def buttonRecord (b : Button) (up : Bool) : Record :=
  .pointer <| match b with
  | .left => { action := if up then .leftUp else .leftDown }
  | .right => { action := if up then .rightUp else .rightDown }
  | .middle => { action := if up then .middleUp else .middleDown }
  | b => { action := if up then .extraUp else .extraDown, data := (b.number.toNat : Int) - 3 }

/-- The records of a button going down or up at the position of an event. -/
def buttonRecords (p : Poster) (moving : Bool) (d : MouseData) (up : Bool) :
    Except PostFault (List Record) :=
  match d.button with
  | none => .error .missingButton
  | some b => .ok (p.motionRecords moving d ++ [buttonRecord b up])

/-- The record of a turn of the wheel; the desktop counts up as positive. -/
def wheelRecord (d : WheelData) : Record :=
  let turn := Saturate.int32 ((d.amount.toNat : Int) * d.rotation.toInt)
  .pointer <| match d.axis with
  | .vertical => { action := .wheel, data := Saturate.int32 (-turn) }
  | .horizontal => { action := .horizontalWheel, data := turn }

/-- The records of an event. -/
def records (p : Poster) (e : Event) (moving : Bool) : Except PostFault (List Record) :=
  match e.kind with
  | .key .pressed d => (p.keyRecord e.mask d.code false).map fun r => [r]
  | .key .released d => (p.keyRecord e.mask d.code true).map fun r => [r]
  | .mouse .pressed d => p.buttonRecords moving d false
  | .mouse .released d => p.buttonRecords moving d true
  | .mouse .moved d | .mouse .dragged d => .ok (p.motionRecords moving d)
  | .wheel d => .ok [wheelRecord d]
  | .key .typed _ | .mouse .clicked _ | .hookEnabled | .hookDisabled =>
    .error (.unsupportedType e.type)

/-- Submits the records of an event. -/
def post (p : Poster) (i : Injector τ) (e : Event) (moving : Bool) : Posted τ :=
  match p.records e moving with
  | .error f => { injector := i, log := [f.line], result := .error f }
  | .ok rs =>
    let line : Log.Line :=
      ⟨.debug, "posting event event_type=" ++ e.type.name ++ " records=" ++
        Text.Numeral.decimal rs.length⟩
    match i.submitAll rs with
    | (i, none) => { injector := i, log := [line], result := .ok () }
    | (i, some (r, f)) =>
      let fault := PostFault.injectionFailed r f
      { injector := i, log := [line, fault.line], result := .error fault }

/-- Posts events in order until the first that fails. -/
def postAll (p : Poster) (i : Injector τ) : List (Event × Bool) → Posted τ
  | [] => { injector := i, log := [], result := .ok () }
  | (e, moving) :: es =>
    let first := p.post i e moving
    match first.result with
    | .error f => { first with result := .error f }
    | .ok _ =>
      let rest := p.postAll first.injector es
      { rest with log := first.log ++ rest.log }

/-- A poster in logs. -/
def text (p : Poster) : String :=
  "EventPoster \x7b extended_keys: ExtendedKeyTable([" ++
    ", ".intercalate (p.extendedKeys.map KeyCode.name) ++ "]), .. \x7d"

end Poster

end InputTap.Post
