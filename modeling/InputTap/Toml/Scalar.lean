import InputTap.Text.Parser
import InputTap.Toml.Value

/-!
# TOML scalars

The grammar of numbers, truth values and dates. Decimal numbers may hold underscores between digits
and no leading zero; integers fit sixty-four bits with a sign; a float above the range of doubles is
refused. A date may have a time and a time an offset.
-/

set_option autoImplicit false

namespace InputTap.Toml.Scalar

open InputTap.Text

/-- A digit, or an underscore before one. -/
def moreDigit (digit : Char → Bool) : Parser Char :=
  Parser.satisfy digit <|> (do Parser.char '_'; Parser.satisfy digit)

/-- Digits with single underscores between them, which are left out. -/
def digits (digit : Char → Bool) : Parser (List Char) := do
  let c ← Parser.satisfy digit
  return c :: (← Parser.many (moreDigit digit))

def isSign (c : Char) : Bool := c == '+' || c == '-'

/-- A plus or minus sign, if there is one; true for minus. -/
def sign : Parser Bool := do
  return (← Parser.perhaps (Parser.satisfy isSign)) == some '-'

/-- A decimal number without a leading zero. -/
def unsigned : Parser (List Char) := do
  if (← Parser.peek) == some '0' then
    return [← Parser.satisfy (· == '0')]
  else digits Char.isDigit

/-- The value of a digit in a base up to sixteen. -/
def digitValue (c : Char) : Nat :=
  if c.isDigit then c.toNat - '0'.toNat
  else c.toLower.toNat - 'a'.toNat + 10

def numeralValue (base : Nat) (ds : List Char) : Nat :=
  ds.foldl (fun v d => v * base + digitValue d) 0

def isHexDigit (c : Char) : Bool :=
  c.isDigit || ('a' ≤ c && c ≤ 'f') || ('A' ≤ c && c ≤ 'F')
def isOctalDigit (c : Char) : Bool := '0' ≤ c && c ≤ '7'
def isBinaryDigit (c : Char) : Bool := c == '0' || c == '1'

/-- An integer that fits sixty-four bits with a sign. -/
def checkedInteger (i : Int) : Parser Value := do
  Parser.require (-9223372036854775808 ≤ i && i ≤ 9223372036854775807)
  return .integer i

/-- A number behind a mark such as `0x`. -/
def marked (mark : List Char) (base : Nat) (digit : Char → Bool) : Parser Value := do
  Parser.text mark
  checkedInteger (numeralValue base (← digits digit))

def decimalInteger : Parser Value := do
  let negative ← sign
  let v : Int := numeralValue 10 (← unsigned)
  checkedInteger (if negative then -v else v)

def integer : Parser Value :=
  marked ['0', 'x'] 16 isHexDigit <|> marked ['0', 'o'] 8 isOctalDigit <|>
    marked ['0', 'b'] 2 isBinaryDigit <|> decimalInteger

/-- The exponent of a float. -/
def exponent : Parser Int := do
  let _ ← Parser.satisfy fun c => c == 'e' || c == 'E'
  let negative ← sign
  let v : Int := numeralValue 10 (← digits Char.isDigit)
  return if negative then -v else v

/-- The least number that lies above the range of doubles: half a step above the greatest one. -/
def doubleLimit : Nat := Nat.pow 2 1024 - Nat.pow 2 970

/-- The number `m * 10 ^ e` lies above the range of doubles. Its order of magnitude decides unless
it is close to that of the limit. -/
def exceedsDouble (m : Nat) (e : Int) : Bool :=
  if m = 0 then false
  else
    let magnitude : Int := (Nat.toDigits 10 m).length + e
    if magnitude < 300 then false
    else if magnitude > 320 then true
    else if e < 0 then doubleLimit * Nat.pow 10 e.natAbs ≤ m
    else doubleLimit ≤ m * Nat.pow 10 e.natAbs

/-- A decimal number with a fraction, an exponent or both, which is not too great. -/
def decimalFloat : Parser Unit := do
  let negative ← sign
  let whole ← unsigned
  let point ← Parser.perhaps (do Parser.char '.'; digits Char.isDigit)
  let power ← if point.isSome then Parser.perhaps exponent else some <$> exponent
  let fraction := point.getD []
  Parser.require (negative ||
    !exceedsDouble (numeralValue 10 (whole ++ fraction)) (power.getD 0 - fraction.length))

/-- Infinity or no number, with or without a sign. -/
def specialFloat : Parser Unit := do
  let _ ← sign
  Parser.text ['i', 'n', 'f'] <|> Parser.text ['n', 'a', 'n']

def float : Parser Value := do
  return .float (String.ofList (← Parser.reading (decimalFloat <|> specialFloat)))

/-- A field of a date or a time: `n` digits with a value between two bounds. -/
def field (n lo hi : Nat) : Parser Nat := do
  let v := numeralValue 10 (← Parser.exactly Char.isDigit n)
  Parser.require (lo ≤ v && v ≤ hi)
  return v

def isLeapYear (y : Nat) : Bool := y % 4 == 0 && (y % 100 != 0 || y % 400 == 0)

def daysInMonth (y m : Nat) : Nat :=
  if m = 2 then if isLeapYear y then 29 else 28
  else if m = 4 ∨ m = 6 ∨ m = 9 ∨ m = 11 then 30
  else 31

/-- A day of the calendar. -/
def day : Parser Unit := do
  let y ← field 4 0 9999
  Parser.char '-'
  let m ← field 2 1 12
  Parser.char '-'
  let _ ← field 2 1 (daysInMonth y m)

/-- A time of the day, which may be a leap second. -/
def timeOfDay : Parser Unit := do
  let _ ← field 2 0 23
  Parser.char ':'
  let _ ← field 2 0 59
  Parser.char ':'
  let _ ← field 2 0 60
  let _ ← Parser.perhaps (do Parser.char '.'; Parser.spanning1 Char.isDigit)

/-- The distance of a time from universal time. -/
def offset : Parser Unit := do
  (do let _ ← Parser.satisfy fun c => c == 'Z' || c == 'z') <|> do
    let _ ← Parser.satisfy isSign
    let _ ← field 2 0 23
    Parser.char ':'
    let _ ← field 2 0 59

/-- A day with or without a time, or a time alone. -/
def date : Parser Value := do
  let isDelimiter (c : Char) : Bool := c == 'T' || c == 't' || c == ' '
  let dayWithTime : Parser Unit := do
    day
    let _ ← Parser.perhaps (do
      let _ ← Parser.satisfy isDelimiter
      timeOfDay
      Parser.perhaps offset)
  return .date (String.ofList (← Parser.reading (dayWithTime <|> timeOfDay)))

/-- A scalar other than a string. -/
def scalar : Parser Value :=
  date <|> float <|> integer <|>
    (do Parser.text "true".toList; return .boolean true) <|>
    (do Parser.text "false".toList; return .boolean false)

end InputTap.Toml.Scalar
