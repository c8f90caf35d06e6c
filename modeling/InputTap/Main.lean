import InputTap.Command.Help
import InputTap.Command.Program

/-!
# The command line program

Reads the command line and the environment, lets `Invocation.run` do the rest on a platform
without a hook, and prints the report.
-/

set_option autoImplicit false

namespace InputTap.Command

/-- The environment variables that the program looks at. -/
def environmentNames : List String :=
  ["INPUTHOOK_CONFIG", "INPUTHOOK_MULTI_CLICK_MS", "XDG_CONFIG_HOME", "HOME", logVariable]

/-- The values of the variables. -/
def readEnvironment : IO (String → Option String) := do
  let values ← environmentNames.mapM fun name => do return (name, ← IO.getEnv name)
  return fun name => (values.lookup name).join

/-- A failure of the file system. -/
def fileFault : IO.Error → Files.FileFault
  | .noFileOrDirectory _ _ _ => .notFound
  | .inappropriateType _ _ _ => .isDirectory
  | e => .other (toString e)

/-- The text of a file. -/
def readText (path : String) : IO (Except Files.FileFault String) := do
  try
    match String.fromUTF8? (← IO.FS.readBinFile path) with
    | some s => return .ok s
    | none => return .error .notText
  catch e => return .error (fileFault e)

/-- Prints what a command line that leads to no run is answered with. -/
def Diversion.print : Diversion → IO Unit
  | .help v => (Help.lines v).forM IO.println
  | .version => IO.println Verb.versionLine
  | .misuse => do
    IO.eprintln "error: invalid command line"
    IO.eprintln ""
    IO.eprintln (Help.usage .program)

/-- Prints a report. -/
def Report.print {τ : Type} (r : Report τ) : IO Unit := do
  r.output.forM fun o => IO.println o.text
  match r.result with
  | some (.error f) =>
    IO.eprintln ("Error: " ++ f.message)
    match f.cause? with
    | none => return
    | some cause => IO.eprintln ("\nCaused by:\n    " ++ cause)
  | _ => return

/-- Runs the program and gives its exit code. -/
def execute (args : List String) : IO UInt32 := do
  let env ← readEnvironment
  match Invocation.ofArgs args env with
  | .error d =>
    d.print
    return UInt32.ofNat d.exitCode
  | .ok i =>
    let text ← match i.settingsPath env with
      | .ok path => readText path
      | .error _ => pure (.error .notFound)
    let r : Report Unit := i.run (.unsupported "linux") env fun _ => text
    r.print
    return UInt32.ofNat (r.exitCode?.get (i.isSome_exitCode?_unsupported ..))

end InputTap.Command

/-- The program. -/
def main (args : List String) : IO UInt32 := InputTap.Command.execute args
