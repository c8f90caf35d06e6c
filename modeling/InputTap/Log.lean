import InputTap.Text.Numeral

/-!
# Log lines

A log line has a level and a text. When it is shown, the characters that a terminal might take for
a command are spelt out. A `Filter` keeps the lines up to a level of detail, or none. Filters are
named by the level, in any mixture of upper and lower case, or by its number.
-/

set_option autoImplicit false

namespace InputTap.Log

/-- How much a line matters, the most important level first. -/
inductive Level
  | error
  | warn
  | info
  | debug
  | trace
deriving DecidableEq, Inhabited

namespace Level

/-- The detail of a level: the lines of a coarser level have a smaller number. -/
def detail : Level → Nat
  | .error => 1
  | .warn => 2
  | .info => 3
  | .debug => 4
  | .trace => 5

def name : Level → String
  | .error => "ERROR"
  | .warn => "WARN"
  | .info => "INFO"
  | .debug => "DEBUG"
  | .trace => "TRACE"

end Level

/-- A message in the log. -/
structure Line where
  level : Level
  text : String
deriving DecidableEq, Inhabited

/-- The seven-bit controls that terminals act on: bell, backspace, form feed, escape and delete. -/
def commandChars : List Char := ['\x07', '\x08', '\x0c', '\x1b', '\x7f']

/-- The character is one of the eight-bit controls. -/
def isHighControl (c : Char) : Bool := 0x80 ≤ c.toNat && c.toNat ≤ 0x9F

/-- A character as the log shows it. -/
def shownChar (c : Char) : List Char :=
  if c ∈ commandChars then ['\\', 'x'] ++ Text.Numeral.charsPadded .lower 14 2 c.toNat
  else if isHighControl c then
    ['\\', 'u', '\x7b'] ++ Text.Numeral.chars .lower 14 c.toNat ++ ['\x7d']
  else [c]

/-- A text as the log shows it. -/
def shownText (s : String) : String := String.ofList (s.toList.flatMap shownChar)

/-- A line as the log shows it. -/
def Line.shown (l : Line) : String := l.level.name ++ " " ++ shownText l.text

/-- The greatest detail that is logged, zero for none. -/
structure Filter where
  detail : Nat
deriving DecidableEq, Inhabited

namespace Filter

/-- The names of filters: those of the levels, their numbers, the two spellings of none, and the
blank name, which leaves errors only. -/
def names : List (String × Nat) :=
  [("", 1), ("off", 0), ("error", 1), ("warn", 2), ("info", 3), ("debug", 4), ("trace", 5),
   ("0", 0), ("1", 1), ("2", 2), ("3", 3), ("4", 4), ("5", 5)]

/-- The filter of a name. -/
def ofName? (s : String) : Option Filter :=
  (names.lookup s.toLower).map Filter.mk

/-- The filter of the first name that denotes one, and otherwise errors only. -/
def ofNames (candidates : List String) : Filter :=
  (candidates.findSome? ofName?).getD ⟨1⟩

/-- The filter keeps the line. -/
def keeps (f : Filter) (l : Line) : Bool := l.level.detail ≤ f.detail

/-- The lines that a filter keeps, in their order. -/
def apply (f : Filter) (ls : List Line) : List Line := ls.filter f.keeps

end Filter

end InputTap.Log
