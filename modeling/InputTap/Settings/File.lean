import InputTap.Files.Tree
import InputTap.Settings.Text

/-!
# Settings files

Where the settings file lies, what loading it gives and what saving it does to the files. A file
that is not there stands for the default settings; every other failure is reported.
-/

set_option autoImplicit false

namespace InputTap

open Files (FileTree FileFault Path.join Path.parent?)

/-- Why settings could not be loaded or saved. -/
inductive SettingsFault
  /-- The environment does not say where settings are kept. -/
  | noDirectory
  | file (path : String) (fault : FileFault)
  | notSettings
  /-- The click time exceeds the integers of a settings file. -/
  | tooGreat
deriving DecidableEq, Inhabited

/-- The message of a fault. -/
def SettingsFault.message : SettingsFault → String
  | .noDirectory => "could not determine platform config directory"
  | .file path f => "I/O error accessing config at " ++ path ++ ": " ++ f.message
  | .notSettings => "failed to parse config TOML"
  | .tooGreat => "failed to serialize config: out-of-range value for u64 type"

namespace Settings

/-- The path of the settings file in an environment: below the directory for settings, else below
the home directory. -/
def path (env : String → Option String) : Except SettingsFault String :=
  let base := match env "XDG_CONFIG_HOME" with
    | some dir => some dir
    | none => (env "HOME").map fun home => Path.join home ".config"
  match base with
  | some dir => .ok (Path.join (Path.join dir "inputhook") "config.toml")
  | none => .error .noDirectory

/-- The settings that come of reading a file. -/
def ofRead (path : String) : Except FileFault String → Except SettingsFault Settings
  | .ok text =>
    match ofText? text with
    | some s => .ok s
    | none => .error .notSettings
  | .error .notFound => .ok {}
  | .error f => .error (.file path f)

/-- Loads the settings at a path. -/
def load (read : String → Except FileFault String) (path : String) :
    Except SettingsFault Settings :=
  ofRead path (read path)

/-- Saves settings at a path: makes the directories, writes the text out, then writes the file. -/
def save (s : Settings) (t : FileTree) (path : String) : Except SettingsFault FileTree := do
  let t ← match Path.parent? path with
    | none => pure t
    | some dir => (t.makeDirs dir).mapError (.file dir)
  match s.toText? with
  | none => .error .tooGreat
  | some text => (t.write path text.toUTF8).mapError (.file path)

end Settings

end InputTap
