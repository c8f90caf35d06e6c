import InputTap.Toml.Scalar

/-!
# TOML strings

A string is basic, with escapes, or literal, without them; either form may be on one line or on
several. A line break just behind the opening quotes of a string on several lines is not part of it,
and every line break in it reads as a line feed. A backslash at the end of a line takes the line
break and the blanks behind it away.
-/

set_option autoImplicit false

namespace InputTap.Toml.Quoted

open InputTap.Text

def isBlank (c : Char) : Bool := c == ' ' || c == '\t'

/-- The character may stand in a text as it is: it is no control but the tab. -/
def isPlain (c : Char) : Bool := c == '\t' || ('\x20' ≤ c && c != '\x7f')

/-- A character of a basic string that stands for itself. -/
def isBasicPlain (c : Char) : Bool := isPlain c && c != '\x22' && c != '\\'

/-- A character of a literal string. -/
def isLiteralPlain (c : Char) : Bool := isPlain c && c != '\x27'

/-- A line feed, with or without a carriage return before it. -/
def newline : Parser Unit :=
  Parser.text ['\n'] <|> Parser.text ['\r', '\n']

/-- A character by its code point in `n` hexadecimal digits. -/
def codePoint (n : Nat) : Parser Char := do
  let v := Scalar.numeralValue 16 (← Parser.exactly Scalar.isHexDigit n)
  Parser.require (v.isValidChar)
  return Char.ofNat v

/-- The short escapes: the letter behind the backslash and the character it stands for. -/
def shortEscapes : List (Char × Char) :=
  [('b', '\x08'), ('t', '\t'), ('n', '\n'), ('f', '\x0c'), ('r', '\r'), ('\x22', '\x22'),
   ('\\', '\\')]

/-- An escape. -/
def escaped : Parser Char := do
  Parser.char '\\'
  let c ← Parser.satisfy fun _ => true
  if c == 'u' then codePoint 4
  else if c == 'U' then codePoint 8
  else match shortEscapes.lookup c with
    | some e => return e
    | none => failure

/-- The parts of a string joined. -/
def joined (parts : Parser (List (List Char))) : Parser (List Char) := do
  return (← parts).flatten

/-- A basic string on one line. -/
def basic : Parser (List Char) := do
  Parser.char '\x22'
  let cs ← joined (Parser.many (Parser.spanning1 isBasicPlain <|> List.singleton <$> escaped))
  Parser.char '\x22'
  return cs

/-- A literal string on one line. -/
def literal : Parser (List Char) := do
  Parser.char '\x27'
  let cs ← Parser.spanning isLiteralPlain
  Parser.char '\x27'
  return cs

/-- One or two quotes, which do not end a string on several lines. -/
def fewQuotes (q : Char) : Parser (List Char) := do
  let qs ← Parser.spanning1 (· == q)
  Parser.require (qs.length < 3)
  return qs

/-- The three quotes that end a string on several lines, behind up to two that belong to it. -/
def closing (q : Char) : Parser (List Char) := do
  let qs ← Parser.spanning1 (· == q)
  Parser.require (3 ≤ qs.length && qs.length ≤ 5)
  return qs.drop 3

/-- A string on several lines, from its parts. -/
def multiline (q : Char) (part : Parser (List Char)) : Parser (List Char) := do
  Parser.text [q, q, q]
  let _ ← Parser.perhaps newline
  let cs ← joined (Parser.many (part <|> fewQuotes q))
  return cs ++ (← closing q)

/-- A line break inside a string. -/
def lineBreak : Parser (List Char) := do newline; return ['\n']

/-- A backslash that joins a line to the next. -/
def lineJoin : Parser (List Char) := do
  Parser.char '\\'
  let _ ← Parser.spanning isBlank
  newline
  let _ ← Parser.many ((do let _ ← Parser.satisfy isBlank) <|> newline)
  return []

def multilineBasic : Parser (List Char) :=
  multiline '\x22' <| Parser.spanning1 isBasicPlain <|> lineJoin <|>
    List.singleton <$> escaped <|> lineBreak

def multilineLiteral : Parser (List Char) :=
  multiline '\x27' <| Parser.spanning1 isLiteralPlain <|> lineBreak

/-- A string in any of its forms. -/
def string : Parser Value := do
  return .string (String.ofList (← multilineBasic <|> basic <|> multilineLiteral <|> literal))

end InputTap.Toml.Quoted
