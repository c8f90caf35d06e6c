import InputTap.Command.Invocation
import InputTap.Command.SystemReport
import InputTap.Settings.File
import InputTap.Text.Lines

/-!
# The program

`Invocation.run` does what an invocation asks for on a `Machine`, which is what the platform offers:
the hook, the input settings and the injector, any of which may be missing. First the settings are
loaded, then the machine is asked, and the `Report` says what was printed, what was logged and how
the run ended, if it did: a run that listens may wait for a hook that nothing stops.
-/

set_option autoImplicit false

namespace InputTap.Command

open Capture (Clock HookFault Listened Listener ReceiverStep RelayFault Replay Surroundings)
open Post (InjectionFault Injector Poster PostFault)

/-- What the platform offers. -/
structure Machine (τ : Type) where
  hook : Except HookFault Replay
  system : Except HookFault SystemState
  injector : Except InjectionFault (Injector τ)
  layout : Layout := .standard
  desktop : Desktop := .single
  /-- The wall clock during the run. -/
  wallTime : Millis := 0
  /-- The hook thread breaks down instead of running. -/
  breaks : Bool := false
  /-- Ctrl+C reaches the program before the hook runs. -/
  interrupted : Bool := false
  /-- What the receiver of a relay does before each event. -/
  schedule : List (List ReceiverStep) := []

/-- A platform without a hook and without an injector. -/
def Machine.unsupported {τ : Type} (platform : String) : Machine τ where
  hook := .error (.unsupported platform)
  system := .error (.unsupported platform)
  injector := .error (.unsupported platform)

/-- Why a run did not end well. -/
inductive Fault
  | settings (cause : SettingsFault)
  | hook (fault : HookFault)
  | listening (fault : RelayFault)
  | injector (fault : InjectionFault)
  /-- A click with button zero. -/
  | noButton
  | post (fault : PostFault)
deriving DecidableEq, Inhabited

namespace Fault

/-- The message of a fault. -/
def message : Fault → String
  | .settings _ => "failed to load configuration"
  | .hook f => f.message
  | .listening f => f.message
  | .injector f => f.message
  | .noButton => "button 0 is not a button"
  | .post f => f.message

/-- The first line of the message. -/
def headline (f : Fault) : String := Text.firstLine f.message

/-- What lies behind a fault, where the message does not say it. -/
def cause? : Fault → Option String
  | .settings f => some f.message
  | _ => none

end Fault

/-- What came of a run. -/
structure Report (τ : Type) where
  /-- What was written to the standard output. -/
  output : List Output := []
  /-- The hook after its run, or where its run waits. -/
  hook : Option Replay := none
  /-- The injector after posting. -/
  injector : Option (Injector τ) := none
  /-- How the run has ended, if it does not wait for the hook. -/
  result : Option (Except Fault Unit) := some (.ok ())

/-- The exit code of a run that the command line led to, once it has ended. -/
def Report.exitCode? {τ : Type} (r : Report τ) : Option Nat :=
  r.result.map fun
    | .ok _ => 0
    | .error _ => 1

/-- The exit code of a command line that led to no run. -/
def Diversion.exitCode : Diversion → Nat
  | .help _ | .version => 0
  | .misuse => 2

namespace Machine

variable {τ : Type}

/-- What a session looks up on the machine. -/
def surroundings (m : Machine τ) (system : SystemState) (s : Settings) : Surroundings :=
  { layout := m.layout, system, options := s.options, wallTime := m.wallTime }

/-- The hook when the run begins: an interrupt has asked it to stop. -/
def ready (m : Machine τ) (hook : Replay) : Replay :=
  if m.interrupted then hook.requestStop.1 else hook

/-- What is logged before the hook runs. -/
def listeningLines (m : Machine τ) (hook : Replay) (stopKey : KeyCode) (beside : Bool) :
    List Log.Line :=
  let listening : Log.Line :=
    ⟨.info, "listening" ++ (if beside then " (async)" else "") ++
      "; press the stop key or Ctrl+C to exit stop_key=" ++ stopKey.name⟩
  let interrupt : List Log.Line :=
    ⟨.info, "received Ctrl+C, stopping hook"⟩ ::
      match hook.requestStop.2 with
      | .ok _ => []
      | .error f => [⟨.error, "failed to stop hook: " ++ f.message⟩]
  listening :: if m.interrupted then interrupt else []

/-- Listens on the hook. -/
def listenOn (m : Machine τ) (hook : Replay) (w : Surroundings) (l : Listener) (beside : Bool) :
    Listened :=
  if beside then l.listenBeside m.breaks (m.ready hook) w m.schedule
  else l.listenInHook m.breaks (m.ready hook) w

/-- The report of having listened. -/
def listenReport (m : Machine τ) (hook : Replay) (l : Listener) (beside : Bool) (e : Listened) :
    Report τ where
  output := (m.listeningLines hook l.stopKey beside).map .log ++ e.output ++
    match e.result with
    | some (.ok _) => [.log ⟨.info, "listener stopped"⟩]
    | _ => []
  hook := if m.breaks then none else some e.replay
  result := e.result.map (Except.mapError .listening)

/-- Listens until the hook stops. -/
def listen (m : Machine τ) (s : Settings) (l : Listener) (beside : Bool) : Report τ :=
  match m.hook, m.system with
  | .error f, _ => { result := some (.error (.hook f)) }
  | .ok _, .error f => { result := some (.error (.hook f)) }
  | .ok hook, .ok system =>
    m.listenReport hook l beside (m.listenOn hook (m.surroundings system s) l beside)

/-- Prints the input settings. -/
def properties (m : Machine τ) : Report τ :=
  match m.system with
  | .error f => { result := some (.error (.hook f)) }
  | .ok system => { output := (SystemReport.lines system m.desktop).map .line }

/-- What events are posted with. -/
def poster (m : Machine τ) (s : Settings) : Poster :=
  { layout := m.layout, desktop := m.desktop, extendedKeys := s.post.extendedKeys }

/-- Posts the events of an action until the first that fails. -/
def post (m : Machine τ) (s : Settings) (a : PostAction) : Report τ :=
  match m.injector, a.events? with
  | .error f, _ => { result := some (.error (.injector f)) }
  | .ok i, none => { injector := some i, result := some (.error .noButton) }
  | .ok i, some events =>
    let e := (m.poster s).postAll i events
    { output := e.log.map .log ++
        match e.result with
        | .ok _ => [.log ⟨.info, "posted"⟩]
        | .error _ => []
      injector := some e.injector
      result := some (e.result.mapError .post) }

/-- Does what an action asks for. -/
def act (m : Machine τ) (s : Settings) : Action → Report τ
  | .listen l beside => m.listen s l beside
  | .properties => m.properties
  | .post a => m.post s a

end Machine

/-- The variable that names the level of the log. -/
def logVariable : String := "RUST_LOG"

/-- What is logged: as the environment says, else as the settings say. -/
def logFilter (env : String → Option String) (s : Settings) : Log.Filter :=
  .ofNames ((env logVariable).toList ++ [s.hook.logLevel])

namespace Invocation

variable {τ : Type}

/-- The path of the settings file. -/
def settingsPath (i : Invocation) (env : String → Option String) : Except SettingsFault String :=
  match i.config with
  | some path => .ok path
  | none => Settings.path env

/-- The settings with what the command line says in their place. -/
def overriding (i : Invocation) (s : Settings) : Settings :=
  { s with
    hook := { s.hook with
      multiClickTime := i.multiClickTime <|> s.hook.multiClickTime
      epochTime := s.hook.epochTime || i.epochTime } }

/-- The settings of a run; without a place for a settings file they are the default ones. -/
def settings (i : Invocation) (env : String → Option String)
    (read : String → Except Files.FileFault String) : Except SettingsFault Settings :=
  match i.settingsPath env with
  | .ok path => (Settings.load read path).map i.overriding
  | .error _ => .ok (i.overriding {})

/-- Does what the invocation asks for. -/
def run (i : Invocation) (m : Machine τ) (env : String → Option String)
    (read : String → Except Files.FileFault String) : Report τ :=
  match i.settings env read with
  | .error f => { result := some (.error (.settings f)) }
  | .ok s =>
    let r := m.act s i.action
    { r with output := Output.filtered (logFilter env s) r.output }

/-- Where there is no hook to wait for, every run ends. -/
theorem isSome_exitCode?_unsupported (i : Invocation) (platform : String)
    (env : String → Option String) (read : String → Except Files.FileFault String) :
    (i.run (.unsupported platform : Machine τ) env read).exitCode?.isSome = true := by
  unfold run
  cases i.settings env read with
  | error f => rfl
  | ok s => cases i.action <;> rfl

end Invocation

end InputTap.Command
