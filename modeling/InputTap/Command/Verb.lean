import InputTap.Command.Parameter

/-!
# Verbs

The commands of the program form a tree: `program` is the command line as a whole, and the verbs
under it and under `post` are named by its words. Each verb has its options and its operands.
-/

set_option autoImplicit false

namespace InputTap.Command

/-- A command. -/
inductive Verb
  | program
  | listen
  | properties
  | post
  | postKey
  | postClick
  | postMove
  | postScroll
  | help
deriving DecidableEq, Inhabited

namespace Verb

/-- The name of the program. -/
def programName : String := "inputhook-demo"

/-- The line that tells the version. -/
def versionLine : String := programName ++ " 0.1.0"

/-- What the help says about the verb. -/
def about : Verb → String
  | .program => "Capture and synthesize global keyboard and mouse input"
  | .listen => "Print every captured event until the stop key is pressed"
  | .properties => "Print keyboard, pointer and screen settings"
  | .post => "Synthesize input"
  | .postKey => "Tap a key, optionally holding modifiers"
  | .postClick => "Press and release a button at a position"
  | .postMove => "Move the pointer to an absolute position"
  | .postScroll => "Scroll the wheel. Positive notches scroll down (or right)"
  | .help => "Print this message or the help of the given subcommand(s)"

/-- The words that go behind the name of the program. -/
def words : Verb → List String
  | .program => []
  | .listen => ["listen"]
  | .properties => ["properties"]
  | .post => ["post"]
  | .postKey => ["post", "key"]
  | .postClick => ["post", "click"]
  | .postMove => ["post", "move"]
  | .postScroll => ["post", "scroll"]
  | .help => ["help"]

/-- The verbs directly under a verb, by their words. -/
def under : Verb → List (String × Verb)
  | .program =>
    [("listen", .listen), ("properties", .properties), ("post", .post), ("help", .help)]
  | .post =>
    [("key", .postKey), ("click", .postClick), ("move", .postMove), ("scroll", .postScroll),
     ("help", .help)]
  | _ => []

/-- The verb that a word names under a verb. -/
def named? (v : Verb) (word : String) : Option Verb := v.under.lookup word

/-- The options and flags of a verb, besides the one that asks for help. -/
def options : Verb → List Parameter
  | .program => [.config, .multiClickTime, .epochTime]
  | .listen => [.beside, .consume, .stopKey]
  | .postKey => [.held]
  | .postClick => [.button, .stay]
  | .postScroll => [.horizontal]
  | _ => []

/-- The operands of a verb, in their order. -/
def operands : Verb → List Parameter
  | .postKey => [.key]
  | .postClick | .postMove => [.x, .y]
  | .postScroll => [.notches]
  | _ => []

/-- The option of a name. -/
def option? (v : Verb) (name : String) : Option Parameter :=
  v.options.find? fun p => p.name == name

/-- The verb tells the version on request. -/
def hasVersion (v : Verb) : Bool := v = .program

end Verb

end InputTap.Command
