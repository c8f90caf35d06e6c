import InputTap.Capture.Dispatcher
import InputTap.Capture.RawInput
import InputTap.Key.Layout
import InputTap.Mask.Held
import InputTap.Pointer.ClickRun

/-!
# Normalizing input

What capture remembers from one input to the next is its `Tracking`: the held keys and the click
run. `Tracking.step` takes one raw input to the next tracking and to the delivery of the events it
stands for. It does not see the consumer, so nothing that a consumer does can disturb the
tracking. A `Normalizer` is a tracking with a dispatcher, and `handle` steps the one and lets the
other deliver.
-/

set_option autoImplicit false

namespace InputTap.Capture

/-- The clock that events are stamped with. -/
inductive Clock
  /-- The hook clock, which raw input carries. -/
  | hook
  /-- The wall clock, in milliseconds since the start of 1970. -/
  | wall
deriving DecidableEq, Inhabited

/-- The settings of a session. -/
structure Options where
  /-- The threshold of a multiple click, in place of the desktop's. -/
  multiClickTime : Option Millis := none
  clock : Clock := .hook
deriving DecidableEq, Inhabited

/-- What a step looks up while it handles an input. -/
structure Surroundings where
  layout : Layout := .standard
  system : SystemState := .idle
  options : Options := {}
  /-- The wall clock at this step. -/
  wallTime : Millis := 0

namespace Surroundings

/-- The time stamp of something that happened at a time of the hook clock. -/
def stamp (s : Surroundings) (time : Millis) : Millis :=
  match s.options.clock with
  | .hook => time
  | .wall => s.wallTime

/-- The longest pause within a multiple click. -/
def threshold (s : Surroundings) : Millis :=
  s.options.multiClickTime.getD s.system.multiClickTime

/-- What one notch of the wheel scrolls by. -/
def scroll (s : Surroundings) : ScrollUnit × UInt16 :=
  if s.system.wheelScrollLines = SystemState.pageScroll then (.page, 1)
  else (.lines, Saturate.toUInt16 s.system.wheelScrollLines.toNat)

end Surroundings

/-- What is remembered from one input to the next. -/
structure Tracking where
  keys : HeldKeys := {}
  clicks : ClickRun := {}
deriving DecidableEq, Inhabited

namespace Tracking

/-- A key goes down: the press leads, and the characters that it types follow. -/
def keyDown (t : Tracking) (s : Surroundings) (vk : VirtualKey) (extended : Bool)
    (time : Millis) : Tracking × Delivery :=
  let keys := match Mask.ofVirtual? vk with
    | some bit => t.keys.press bit
    | none => t.keys
  let code := s.layout.place vk extended
  let event kind : Event := ⟨s.stamp time, keys.held, kind⟩
  ({ t with keys },
    { before := [.key .pressed vk code]
      lead := some (event (.key .pressed { code, rawCode := vk }))
      followers := (s.layout.typed vk keys.typingMask).map fun c =>
        event (.key .typed { code := .undefined, rawCode := vk, char := some c }) })

/-- A key goes up. -/
def keyUp (t : Tracking) (s : Surroundings) (vk : VirtualKey) (extended : Bool)
    (time : Millis) : Tracking × Delivery :=
  let keys := match Mask.ofVirtual? vk with
    | some bit => t.keys.unset bit
    | none => t.keys
  let code := s.layout.place vk extended
  ({ t with keys },
    { before := [.key .released vk code]
      lead := some ⟨s.stamp time, keys.held, .key .released { code, rawCode := vk }⟩ })

/-- The facts to note about a raw button. -/
def indexNotices (b : RawButton) : List Notice :=
  if b.isUnindexed then [.unindexedButton] else []

/-- A button goes down. -/
def buttonDown (t : Tracking) (s : Surroundings) (raw : RawButton) (p : Point)
    (time : Millis) : Tracking × Delivery :=
  let b := raw.button
  let keys := match b.mask? with
    | some bit => t.keys.set bit
    | none => t.keys
  let now := s.stamp time
  let clicks := t.clicks.press b now p s.threshold
  let overflow := if t.clicks.overflows b now s.threshold then [.countAtMaximum b] else []
  ({ keys, clicks },
    { before := indexNotices raw ++ overflow ++ [.button .pressed p b clicks.count]
      lead := some ⟨now, keys.held, .mouse .pressed
        { button := some b, clicks := clicks.count, x := p.eventX, y := p.eventY }⟩ })

/-- A button goes up: the release leads, and a click follows at the point of the latest press. -/
def buttonUp (t : Tracking) (s : Surroundings) (raw : RawButton) (p : Point)
    (time : Millis) : Tracking × Delivery :=
  let b := raw.button
  let keys := match b.mask? with
    | some bit => t.keys.unset bit
    | none => t.keys
  let now := s.stamp time
  let data : MouseData :=
    { button := some b, clicks := t.clicks.count, x := p.eventX, y := p.eventY }
  ({ keys, clicks := t.clicks.release b now s.threshold },
    { before := indexNotices raw ++ [.button .released p b data.clicks]
      lead := some ⟨now, keys.held, .mouse .released data⟩
      followers := if t.clicks.isAt p then [⟨now, keys.held, .mouse .clicked data⟩] else [] })

/-- The pointer moves: a drag while a button is held, and nothing on the point of the latest
press. -/
def motion (t : Tracking) (s : Surroundings) (p : Point) (time : Millis) : Tracking × Delivery :=
  let now := s.stamp time
  match t.clicks.motion? now p s.threshold with
  | none => (t, { before := [.motionSuppressed] })
  | some clicks =>
    let action : MouseAction := if t.keys.held.meets Mask.buttons then .dragged else .moved
    let data : MouseData :=
      { button := none, clicks := clicks.count, x := p.eventX, y := p.eventY }
    ({ t with clicks },
      { before := [.motion action data]
        lead := some ⟨now, t.keys.held, .mouse action data⟩ })

/-- The wheel turns; away from the user is up, which events report as a negative rotation. -/
def wheel (t : Tracking) (s : Surroundings) (axis : WheelAxis) (delta : Int16) (p : Point)
    (time : Millis) : Tracking × Delivery :=
  let clicks := t.clicks.wheel
  let (scroll, amount) := s.scroll
  let rotation := match axis with
    | .vertical => Saturate.negInt16 delta
    | .horizontal => delta
  ({ t with clicks },
    { before := [.wheel rotation amount axis]
      lead := some ⟨s.stamp time, t.keys.held, .wheel
        { clicks := clicks.count, x := p.eventX, y := p.eventY, scroll, amount, rotation,
          axis }⟩ })

/-- The tracking after one input, and what the input delivers. -/
def step (t : Tracking) (s : Surroundings) : RawInput → Tracking × Delivery
  | .keyDown vk extended time => t.keyDown s vk extended time
  | .keyUp vk extended time => t.keyUp s vk extended time
  | .buttonDown b p time => t.buttonDown s b p time
  | .buttonUp b p time => t.buttonUp s b p time
  | .motion p time => t.motion s p time
  | .wheel axis delta p time => t.wheel s axis delta p time
  | .unrecognized message _ => (t, { before := [.unrecognized message] })

/-- The tracking with the held keys read from the live keys; the click run goes on. -/
def reread (t : Tracking) (system : SystemState) : Tracking :=
  { t with keys := HeldKeys.ofSystem system }

end Tracking

/-- A tracking with the dispatcher of its events. -/
structure Normalizer (σ : Type) where
  tracking : Tracking := {}
  dispatcher : Dispatcher σ := {}

namespace Normalizer

variable {σ : Type}

/-- The mask of the held keys. -/
def held (n : Normalizer σ) : Mask := n.tracking.keys.held

/-- Carries out a delivery. -/
def deliver (n : Normalizer σ) (x : Delivery) : Normalizer σ × Trace :=
  let r := n.dispatcher.deliver x
  ({ n with dispatcher := r.1 }, r.2)

/-- Handles one input: the verdict on it is that of the trace. -/
def handle (n : Normalizer σ) (s : Surroundings) (raw : RawInput) : Normalizer σ × Trace :=
  let r := n.tracking.step s raw
  { n with tracking := r.1 }.deliver r.2

/-- Reads the held keys from the live keys. -/
def reread (n : Normalizer σ) (system : SystemState) : Normalizer σ :=
  { n with tracking := n.tracking.reread system }

/-- Dispatches an event about the hook itself, which carries no mask. -/
def announce (n : Normalizer σ) (s : Surroundings) (kind : EventKind) (time : Millis) :
    Normalizer σ × Trace :=
  n.deliver { lead := some ⟨s.stamp time, .empty, kind⟩ }

end Normalizer

end InputTap.Capture
