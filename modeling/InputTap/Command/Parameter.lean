import InputTap.Key.Code
import InputTap.Text.Integer

/-!
# Parameters

The parameters of the commands and the values they take. A parameter is a flag, an option with a
value or an operand; `Kind.read?` reads a value from its text and refuses every text that denotes
none.
-/

set_option autoImplicit false

namespace InputTap.Command

/-- What may follow a command. -/
inductive Parameter
  | config
  | multiClickTime
  | epochTime
  | beside
  | consume
  | stopKey
  | held
  | button
  | stay
  | horizontal
  | key
  | x
  | y
  | notches
deriving DecidableEq, Inhabited

/-- The values that a parameter takes. -/
inductive Kind
  /-- No value: the parameter is given or not. -/
  | flag
  | path
  | millis
  | key
  | buttonNumber
  | coordinate
deriving DecidableEq, Inhabited

/-- A value on the command line. -/
inductive Value
  | given
  | text (s : String)
  | number (n : Int)
  | key (k : KeyCode)
deriving DecidableEq, Inhabited

namespace Value

def text? : Value → Option String
  | .text s => some s
  | _ => none

def number? : Value → Option Int
  | .number n => some n
  | _ => none

def key? : Value → Option KeyCode
  | .key k => some k
  | _ => none

end Value

/-- A number within bounds. -/
def numberWithin (low high : Int) (n : Int) : Option Value :=
  if low ≤ n ∧ n ≤ high then some (.number n) else none

/-- Reads a value. -/
def Kind.read? (k : Kind) (s : String) : Option Value :=
  match k with
  | .flag => none
  | .path => if s.isEmpty then none else some (.text s)
  | .millis => (Text.Integer.unsigned? s.toList).bind fun n => numberWithin 0 18446744073709551615 n
  | .key => (KeyCode.ofName? s).map .key
  | .buttonNumber => (Text.Integer.signed? s.toList).bind (numberWithin 0 65535)
  | .coordinate => (Text.Integer.signed? s.toList).bind (numberWithin (-32768) 32767)

namespace Parameter

/-- The name on the command line, in capitals for an operand. -/
def name : Parameter → String
  | .config => "config"
  | .multiClickTime => "multi-click-time"
  | .epochTime => "epoch-time"
  | .beside => "async"
  | .consume => "consume"
  | .stopKey => "stop-key"
  | .held => "with"
  | .button => "button"
  | .stay => "no-move"
  | .horizontal => "horizontal"
  | .key => "KEY"
  | .x => "X"
  | .y => "Y"
  | .notches => "NOTCHES"

def kind : Parameter → Kind
  | .config => .path
  | .multiClickTime => .millis
  | .epochTime | .beside | .stay | .horizontal => .flag
  | .consume | .stopKey | .held | .key => .key
  | .button => .buttonNumber
  | .x | .y | .notches => .coordinate

/-- The parameter may be given more than once. -/
def isRepeatable : Parameter → Bool
  | .consume | .held => true
  | _ => false

/-- A minus sign with digits behind it is a value of the parameter rather than an option. -/
def allowsNegative (p : Parameter) : Bool := p.kind = .coordinate

/-- The environment variable that stands in for the parameter. -/
def envName? : Parameter → Option String
  | .config => some "INPUTHOOK_CONFIG"
  | .multiClickTime => some "INPUTHOOK_MULTI_CLICK_MS"
  | _ => none

/-- What the help says about the parameter. -/
def about : Parameter → String
  | .config => "Path to the TOML config file. Defaults to the platform config dir"
  | .multiClickTime => "Multi-click threshold in milliseconds, overriding the system setting"
  | .epochTime => "Stamp events with Unix epoch milliseconds instead of the hook clock"
  | .beside => "Deliver events through an async channel instead of printing from the hook callback"
  | .consume => "Suppress presses and releases of this key. Repeatable"
  | .stopKey => "Key whose press ends the session"
  | .held => "Modifier held during the tap, e.g. \x60ShiftLeft\x60. Repeatable"
  | .button => "1-based button number"
  | .stay => "Click wherever the pointer currently is"
  | .horizontal | .key | .x | .y | .notches => ""

end Parameter

end InputTap.Command
