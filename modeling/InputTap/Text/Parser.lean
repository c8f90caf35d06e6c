/-!
# Parsers

A `Parser` reads a value from the front of a list of characters and leaves the rest, or fails
without a trace. Repetition is bounded by the length of the text, which is enough for a parser
that reads at least one character each time.
-/

set_option autoImplicit false

namespace InputTap.Text

/-- Reads a value from the front of a text. -/
abbrev Parser (α : Type) := StateT (List Char) Option α

namespace Parser

variable {α β : Type}

/-- The next character, left where it is. -/
def peek : Parser (Option Char) := fun s => some (s.head?, s)

/-- The next character if it passes the test. -/
def satisfy (test : Char → Bool) : Parser Char
  | [] => none
  | c :: s => if test c then some (c, s) else none

/-- One given character. -/
def char (c : Char) : Parser Unit := do
  let _ ← satisfy (· == c)

/-- The given characters in a row. -/
def text : List Char → Parser Unit
  | [] => pure ()
  | c :: cs => do char c; text cs

/-- The characters up to the first that fails the test. -/
def spanning (test : Char → Bool) : Parser (List Char) :=
  fun s => some (s.takeWhile test, s.dropWhile test)

/-- At least one character, up to the first that fails the test. -/
def spanning1 (test : Char → Bool) : Parser (List Char) := do
  let c ← satisfy test
  return c :: (← spanning test)

/-- Exactly `n` characters that pass the test. -/
def exactly (test : Char → Bool) : Nat → Parser (List Char)
  | 0 => pure []
  | n + 1 => do
    let c ← satisfy test
    return c :: (← exactly test n)

/-- The end of the text. -/
def atEnd : Parser Unit
  | [] => some ((), [])
  | _ :: _ => none

/-- What the parser reads, if it succeeds. -/
def perhaps (p : Parser α) : Parser (Option α) := fun s =>
  match p s with
  | some (a, rest) => some (some a, rest)
  | none => some (none, s)

/-- Repeats a parser up to `n` times, until it fails. -/
def upTo (p : Parser α) : Nat → Parser (List α)
  | 0 => pure []
  | n + 1 => do
    match ← perhaps p with
    | none => return []
    | some a => return a :: (← upTo p n)

/-- Repeats a parser until it fails. -/
def many (p : Parser α) : Parser (List α) := fun s => upTo p s.length s

/-- Repeats a parser with a separator between one success and the next. -/
def separated (p : Parser α) (separator : Parser β) : Parser (List α) := do
  match ← perhaps p with
  | none => return []
  | some a => return a :: (← many (do let _ ← separator; p))

/-- The characters that a parser reads. -/
def reading (p : Parser α) : Parser (List Char) := fun s =>
  match p s with
  | some (_, rest) => some (s.take (s.length - rest.length), rest)
  | none => none

/-- Fails unless the condition holds. -/
def require (b : Bool) : Parser Unit := if b then pure () else failure

/-- The value of a parser that reads the whole text. -/
def whole? (p : Parser α) (s : List Char) : Option α :=
  match p s with
  | some (a, []) => some a
  | _ => none

end Parser

end InputTap.Text
