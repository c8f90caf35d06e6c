import InputTap.Command.Verb

/-!
# Reading command lines

A command line is read word by word. Every verb opens a `Level`, which collects the values of the
verb's parameters. The value of a parameter is checked when the next parameter of its level is met
or the line ends, so a request for help that comes before that is still heard. `levels` gives the
levels of a line from the innermost verb to the program; they are complete once the environment
has stood in for options that were not given.
-/

set_option autoImplicit false

namespace InputTap.Command

/-- Why a command line does not lead to a run. -/
inductive Diversion
  /-- It asks for the help on a verb. -/
  | help (v : Verb)
  | version
  /-- It is no command line of the program. -/
  | misuse
deriving DecidableEq, Inhabited

/-- What a word of the command line looks like. -/
inductive Word
  /-- Two hyphens, behind which every word is an operand. -/
  | separator
  | long (name : String) (attached : Option String)
  | short (letters : List Char)
  | plain
deriving DecidableEq, Inhabited

/-- Tells what a word looks like. -/
def Word.ofString (s : String) : Word :=
  match s.toList with
  | ['-', '-'] => .separator
  | '-' :: '-' :: cs =>
    .long (String.ofList (cs.takeWhile (· != '=')))
      (match cs.dropWhile (· != '=') with
        | [] => none
        | _ :: value => some (String.ofList value))
  | '-' :: c :: cs => .short (c :: cs)
  | _ => .plain

/-- The last parameter that was met, whose value is still to be checked. -/
structure Pending where
  parameter : Parameter
  /-- The value, none while it has yet to come. -/
  value : Option String
deriving DecidableEq, Inhabited

/-- A verb and the values of its parameters so far. -/
structure Level where
  verb : Verb
  given : List (Parameter × Value) := []
  pending : Option Pending := none
  /-- The operands to come. -/
  operands : List Parameter := verb.operands
  /-- The words to come are operands. -/
  operandsOnly : Bool := false
deriving DecidableEq, Inhabited

namespace Level

def isGiven (l : Level) (p : Parameter) : Bool := l.given.any fun g => g.1 == p

/-- Takes the value of a parameter, which only some parameters may have again. -/
def take (l : Level) (p : Parameter) (v : Value) : Except Diversion Level :=
  if l.isGiven p && !p.isRepeatable then .error .misuse
  else .ok { l with given := l.given ++ [(p, v)] }

/-- Takes the text of a parameter's value. -/
def takeText (l : Level) (p : Parameter) (s : String) : Except Diversion Level :=
  match p.kind.read? s with
  | some v => l.take p v
  | none => .error .misuse

/-- Checks the value of the pending parameter. -/
def settle (l : Level) : Except Diversion Level :=
  match l.pending with
  | none => .ok l
  | some ⟨p, some s⟩ => { l with pending := none }.takeText p s
  | some ⟨_, none⟩ => .error .misuse

/-- The next word is the value of the pending option, unless it looks like something else. -/
def isAwaiting (l : Level) : Bool := !l.operandsOnly && l.pending.any fun p => p.value.isNone

/-- Gives the pending option its value. -/
def fill (l : Level) (s : String) : Level :=
  { l with pending := l.pending.map fun p => { p with value := some s } }

/-- Takes the next operand. -/
def operand (l : Level) (s : String) : Except Diversion Level := do
  let l ← l.settle
  match l.operands with
  | [] => .error .misuse
  | p :: rest => return { l with pending := some ⟨p, some s⟩, operands := rest }

/-- A word that is a value of the pending option or else an operand. -/
def valueOrOperand (l : Level) (s : String) : Except Diversion Level :=
  if l.isAwaiting then .ok (l.fill s) else l.operand s

/-- Turns aside once the pending parameter is in order. -/
def divert (l : Level) (d : Diversion) : Except Diversion Level := do
  let _ ← l.settle
  .error d

/-- A word that begins with two hyphens. -/
def long (l : Level) (name : String) (attached : Option String) : Except Diversion Level :=
  match l.verb.option? name, attached with
  | some p, some s => do
    if p.kind = .flag then .error .misuse else (← l.settle).takeText p s
  | some p, none => do
    let l ← l.settle
    if p.kind = .flag then l.take p .given else return { l with pending := some ⟨p, none⟩ }
  | none, some _ => .error .misuse
  | none, none =>
    if name = "help" then l.divert (.help l.verb)
    else if name = "version" ∧ l.verb.hasVersion then l.divert .version
    else .error .misuse

/-- A word that begins with one hyphen: a negative number where one may stand, else one-letter
flags, of which the first already turns aside. -/
def short (l : Level) (letters : List Char) (word : String) : Except Diversion Level :=
  if letters.all Char.isDigit && l.operands.head?.any Parameter.allowsNegative then
    l.valueOrOperand word
  else match letters with
    | 'h' :: _ => l.divert (.help l.verb)
    | 'V' :: _ => if l.verb.hasVersion then l.divert .version else .error .misuse
    | _ => .error .misuse

/-- Takes one word that names no verb. -/
def word (l : Level) (s : String) : Except Diversion Level :=
  if l.operandsOnly then l.operand s
  else match Word.ofString s with
    | .separator => .ok { l with operandsOnly := true }
    | .long name attached => l.long name attached
    | .short letters => l.short letters s
    | .plain => l.valueOrOperand s

/-- The verb that a word names, where verbs are looked for. -/
def verb? (l : Level) (s : String) : Option Verb :=
  if l.operandsOnly || l.isAwaiting then none else l.verb.named? s

/-- Lets the environment stand in for a parameter. -/
def standIn (env : String → Option String) (l : Level) (p : Parameter) : Except Diversion Level :=
  if l.isGiven p then .ok l
  else match p.envName?.bind env with
    | none => .ok l
    | some s => l.takeText p s

/-- The level at the end of the line. -/
def complete (l : Level) (env : String → Option String) : Except Diversion Level := do
  l.verb.options.foldlM (standIn env) (← l.settle)

/-- The first value of a parameter. -/
def value? (l : Level) (p : Parameter) : Option Value := l.given.lookup p

/-- All values of a parameter. -/
def values (l : Level) (p : Parameter) : List Value :=
  (l.given.filter fun g => g.1 == p).map Prod.snd

end Level

/-- The help that is asked for by the words behind `help`. -/
def helpOn (v : Verb) (words : List String) : Diversion :=
  match words.foldlM Verb.named? v with
  | some v => .help v
  | none => .misuse

/-- Reads words at the innermost level; the other levels are those around it. -/
def readWords : List String → Level → List Level → Except Diversion (List Level)
  | [], l, around => .ok (l :: around)
  | s :: rest, l, around =>
    match l.verb? s with
    | some .help => .error (helpOn l.verb rest)
    | some v => readWords rest { verb := v } (l :: around)
    | none =>
      match l.word s with
      | .ok l => readWords rest l around
      | .error d => .error d

/-- The complete levels of a command line, the innermost first. -/
def levels (args : List String) (env : String → Option String) :
    Except Diversion (List Level) := do
  (← readWords args { verb := .program } []).mapM fun l => l.complete env

end InputTap.Command
