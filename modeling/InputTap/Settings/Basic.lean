import InputTap.Capture.Normalizer
import InputTap.Post.Poster

/-!
# Settings

The settings of the program, as a settings file gives them: those of the hook and those of posting.
Whatever a file leaves out has a default.
-/

set_option autoImplicit false

namespace InputTap

/-- The settings of the hook. -/
structure HookSettings where
  /-- The threshold of a multiple click, in place of the desktop's. -/
  multiClickTime : Option Millis := none
  /-- Events are stamped with the wall clock. -/
  epochTime : Bool := false
  /-- What is logged unless the environment says otherwise. -/
  logLevel : String := "info"
deriving DecidableEq, Inhabited

/-- The settings of posting. -/
structure PostSettings where
  /-- The keys posted with the extended flag while a shift key is held. -/
  extendedKeys : List KeyCode := Post.defaultExtendedKeys
deriving DecidableEq, Inhabited

/-- The settings of the program. -/
structure Settings where
  hook : HookSettings := {}
  post : PostSettings := {}
deriving DecidableEq, Inhabited

/-- The options of a session under the settings. -/
def Settings.options (s : Settings) : Capture.Options where
  multiClickTime := s.hook.multiClickTime
  clock := if s.hook.epochTime then .wall else .hook

end InputTap
