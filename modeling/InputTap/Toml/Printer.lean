import InputTap.Text.Numeral
import InputTap.Toml.Quoted

/-!
# Writing TOML

A string is written in the first form that holds it without an escape: basic, literal, and each of
the two on several lines; failing all four it is a basic string with escapes. An array with two
items or more has one item on each line.
-/

set_option autoImplicit false

namespace InputTap.Toml.Printer

/-- The character is a control other than the tab and the line feed. -/
def isControl (c : Char) : Bool := !Quoted.isPlain c && c != '\n'

/-- The greatest number of equal characters in a row. -/
def longestRun (q : Char) (cs : List Char) : Nat :=
  (cs.foldl (fun (longest, current) c =>
    let current := if c = q then current + 1 else 0
    (max longest current, current)) (0, 0)).1

/-- The forms in which a string may be written. -/
inductive Style
  | basic
  | literal
  | multilineBasic
  | multilineLiteral
deriving DecidableEq, Inhabited

/-- The form in which a string is written. -/
def styleOf (cs : List Char) : Style :=
  let has (c : Char) : Bool := cs.contains c
  let controls := cs.any isControl
  if !controls && !has '\\' && !has '\x22' && !has '\n' then .basic
  else if !controls && !has '\x27' && !has '\n' then .literal
  else if !controls && !has '\\' && longestRun '\x22' cs < 3 then .multilineBasic
  else if !controls && longestRun '\x27' cs < 3 then .multilineLiteral
  else if has '\n' then .multilineBasic
  else .basic

/-- An escape by the code point, in four digits. -/
def codePointEscape (c : Char) : List Char :=
  let ds := Text.Numeral.chars .upper 14 c.toNat
  ['\\', 'u'] ++ List.replicate (4 - ds.length) '0' ++ ds

/-- A character of a basic string that is no quote and no line feed. -/
def basicChar (c : Char) : List Char :=
  if c = '\x08' then ['\\', 'b']
  else if c = '\t' then ['\\', 't']
  else if c = '\x0c' then ['\\', 'f']
  else if c = '\r' then ['\\', 'r']
  else if c = '\\' then ['\\', '\\']
  else if isControl c then codePointEscape c
  else [c]

/-- The inside of a basic string on one line. -/
def basicBody (cs : List Char) : List Char :=
  cs.flatMap fun c =>
    if c = '\x22' then ['\\', '\x22']
    else if c = '\n' then ['\\', 'n']
    else basicChar c

/-- The inside of a basic string on several lines, behind `quotes` quotes in a row. Each third quote
in a row is escaped. -/
def multilineBasicBody : Nat → List Char → List Char
  | _, [] => []
  | quotes, c :: cs =>
    if c = '\x22' then
      if quotes = 2 then '\\' :: '\x22' :: multilineBasicBody 0 cs
      else '\x22' :: multilineBasicBody (quotes + 1) cs
    else if c = '\n' then '\n' :: multilineBasicBody 0 cs
    else basicChar c ++ multilineBasicBody 0 cs

/-- The line feed behind the opening quotes of a string on several lines. -/
def opening (cs : List Char) : List Char := if cs.contains '\n' then ['\n'] else []

/-- A string as a document writes it. -/
def string (s : String) : String :=
  let cs := s.toList
  let basicQuotes := List.replicate 3 '\x22'
  let literalQuotes := List.replicate 3 '\x27'
  String.ofList <| match styleOf cs with
  | .basic => ['\x22'] ++ basicBody cs ++ ['\x22']
  | .literal => ['\x27'] ++ cs ++ ['\x27']
  | .multilineBasic => basicQuotes ++ opening cs ++ multilineBasicBody 0 cs ++ basicQuotes
  | .multilineLiteral => literalQuotes ++ opening cs ++ cs ++ literalQuotes

/-- A truth value. -/
def boolean (b : Bool) : String := if b then "true" else "false"

/-- An array of written items. -/
def array : List String → String
  | [] => "[]"
  | [item] => "[" ++ item ++ "]"
  | items => "[\n" ++ String.join (items.map fun item => "    " ++ item ++ ",\n") ++ "]"

/-- A table under a header, from the written values of its keys. -/
def table (name : String) (entries : List (String × String)) : String :=
  "[" ++ name ++ "]\n" ++ String.join (entries.map fun e => e.1 ++ " = " ++ e.2 ++ "\n")

/-- Tables one after the other, an empty line between them. -/
def document (tables : List String) : String := "\n".intercalate tables

end InputTap.Toml.Printer
