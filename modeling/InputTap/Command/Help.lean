import InputTap.Command.Verb

/-!
# Help

The help on a verb: what it does, how it is called, the verbs under it, its operands and its
options. Names and explanations stand in two columns. Only the first line, which is the verb's own
explanation, is of the same form for every verb.
-/

set_option autoImplicit false

namespace InputTap.Command

/-- The name of a parameter's value, for options that take one. -/
def Parameter.placeholder? : Parameter → Option String
  | .config => some "CONFIG"
  | .multiClickTime => some "MULTI_CLICK_TIME"
  | .consume | .held => some "KEY"
  | .stopKey => some "STOP_KEY"
  | .button => some "BUTTON"
  | _ => none

/-- A name in angle brackets. -/
def bracketed (s : String) : String := "<" ++ s ++ ">"

/-- A parameter as the help on its verb shows it. -/
def Parameter.shown (p : Parameter) : String :=
  match p.placeholder? with
  | some value => "--" ++ p.name ++ " " ++ bracketed value
  | none => "--" ++ p.name

namespace Help

/-- The entries of a paragraph of the help, a name and an explanation each. -/
abbrev Entries := List (String × String)

/-- A paragraph: a title and its entries in two columns. -/
def paragraph (title : String) (entries : Entries) : List String :=
  let width := (entries.map fun e => e.1.length).foldl max 0
  if entries.isEmpty then []
  else "" :: (title ++ ":") :: entries.map fun e =>
    let gap := if e.2.isEmpty then 0 else width - e.1.length + 2
    "  " ++ e.1 ++ String.ofList (List.replicate gap ' ') ++ e.2

/-- How a verb is called. -/
def usage (v : Verb) : String :=
  " ".intercalate <| ["Usage:", Verb.programName] ++ v.words ++
    (if v.options.isEmpty then [] else ["[OPTIONS]"]) ++
    v.operands.map (fun p => bracketed p.name) ++
    (if v.under.isEmpty then [] else [bracketed "COMMAND"])

/-- The options of a verb, those that tell about the program included. -/
def options (v : Verb) : Entries :=
  v.options.map (fun p => (p.shown, p.about)) ++ [("-h, --help", "Print help")] ++
    if v.hasVersion then [("-V, --version", "Print version")] else []

/-- The help on a verb. -/
def lines (v : Verb) : List String :=
  [v.about, "", usage v] ++
    paragraph "Commands" (v.under.map fun w => (w.1, w.2.about)) ++
    paragraph "Arguments" (v.operands.map fun p => (bracketed p.name, p.about)) ++
    paragraph "Options" (options v)

end Help

end InputTap.Command
