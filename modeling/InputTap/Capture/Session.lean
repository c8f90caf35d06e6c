import InputTap.Capture.Normalizer

/-!
# Sessions

A `Session` is the life of one hook: it starts once, may be restarted while it runs, and stops once.
The held keys are read from the live keys at a start and at the end of a restart; input is handled
only while the session runs. `HookEnabled` is dispatched at the start and `HookDisabled` at the stop
of a session that was started.
-/

set_option autoImplicit false

namespace InputTap.Capture

/-- A normalizer with the phase of its session. -/
structure Session (σ : Type) where
  phase : Phase := .idle
  normalizer : Normalizer σ := {}

namespace Session

variable {σ : Type}

/-- A new session whose events go to the dispatcher. -/
def new (d : Dispatcher σ) : Session σ := { normalizer := { dispatcher := d } }

/-- The mask of the held keys. -/
def held (s : Session σ) : Mask := s.normalizer.held

/-- The session with another dispatcher. -/
def withDispatcher (s : Session σ) (d : Dispatcher σ) : Session σ :=
  { s with normalizer := { s.normalizer with dispatcher := d } }

/-- Starts a session that was never started. -/
def start (s : Session σ) (w : Surroundings) (time : Millis) :
    Except HookFault (Session σ × Trace) :=
  match s.phase with
  | .idle =>
    let n := s.normalizer.reread w.system
    let r := n.announce w .hookEnabled time
    .ok ({ phase := .running, normalizer := r.1 }, .noted (.hookEnabled n.held) :: r.2)
  | _ => .error .alreadyStarted

/-- Handles one input while the session runs; otherwise the input passes unseen. -/
def handle (s : Session σ) (w : Surroundings) (raw : RawInput) : Session σ × Trace :=
  match s.phase with
  | .running =>
    let r := s.normalizer.handle w raw
    ({ s with normalizer := r.1 }, r.2)
  | phase => (s, [.noted (.outsideRunning phase)])

/-- The native hook is about to be installed again. -/
def beginRestart (s : Session σ) : Session σ × Trace :=
  match s.phase with
  | .running => ({ s with phase := .restarting }, [.noted .restarting])
  | _ => (s, [])

/-- The native hook is installed again; keys that changed meanwhile make no events. -/
def finishRestart (s : Session σ) (w : Surroundings) : Session σ × Trace :=
  match s.phase with
  | .restarting =>
    let n := s.normalizer.reread w.system
    ({ phase := .running, normalizer := n },
      (if s.held = n.held then [] else [.noted (.heldChanged s.held n.held)]) ++
        [.noted .restarted])
  | _ => (s, [])

/-- Stops the session for good. -/
def stop (s : Session σ) (w : Surroundings) (time : Millis) : Session σ × Trace :=
  match s.phase with
  | .running | .restarting =>
    let r := s.normalizer.announce w .hookDisabled time
    ({ phase := .stopped, normalizer := r.1 }, r.2 ++ [.noted .hookDisabled])
  | .idle | .stopped => ({ s with phase := .stopped }, [])

/-- A session in logs, by its identifier. -/
def text (s : Session σ) (id : String) : String :=
  "HookSession \x7b id: " ++ id ++ ", state: " ++ s.phase.name ++ ", .. \x7d"

end Session

end InputTap.Capture
