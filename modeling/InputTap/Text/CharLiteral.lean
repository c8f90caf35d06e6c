import InputTap.Text.DefaultIgnorable
import InputTap.Text.GraphemeExtend
import InputTap.Text.Numeral
import InputTap.Text.Unprintable

/-!
# Character literals

A character is written between single quotes. The quote, the backslash and four controls have short
escapes; other characters that cannot stand alone, because they have no printed form, can be left
out of the picture or attach to the character before them, are written by their code point in
braces. The halfwidth voicing marks attach to what is before them too, but have a cell of their own
and stand alone.
-/

set_option autoImplicit false

namespace InputTap.Text.CharLiteral

/-- The short escape of a character, without the backslash. -/
def shortEscape? (c : Char) : Option Char :=
  if c = '\x00' then some '0'
  else if c = '\t' then some 't'
  else if c = '\r' then some 'r'
  else if c = '\n' then some 'n'
  else if c = '\x27' then some '\x27'
  else if c = '\\' then some '\\'
  else none

/-- The character is a halfwidth voiced or semi-voiced sound mark. -/
def isVoicingMark (c : Char) : Bool := c = '\uff9e' || c = '\uff9f'

/-- The character attaches to the one before it and has no cell of its own. -/
def attaches (c : Char) : Bool := isGraphemeExtend c && !isVoicingMark c

/-- The character can stand alone between the quotes. -/
def standsAlone (c : Char) : Bool := !attaches c && !isUnprintable c && !isDefaultIgnorable c

/-- The characters between the quotes. -/
def body (c : Char) : List Char :=
  match shortEscape? c with
  | some e => ['\\', e]
  | none =>
    if standsAlone c then [c]
    else ['\\', 'u', '\x7b'] ++ Numeral.chars .lower 14 c.toNat ++ ['\x7d']

/-- The literal of a character. -/
def text (c : Char) : String := String.ofList ('\x27' :: body c ++ ['\x27'])

end InputTap.Text.CharLiteral
