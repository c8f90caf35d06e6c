import InputTap.Toml.Quoted

/-!
# TOML documents

A document is a sequence of statements: headers of tables, headers of elements of arrays of tables,
and assignments to keys. `Document.statements` reads them; `Document.entries?` carries them out, one
after the other, on a table that is empty at first. Arrays and tables in braces nest up to a limit,
and keys have up to as many parts.
-/

set_option autoImplicit false

namespace InputTap.Toml

open InputTap.Text

/-- One statement of a document; a dotted key is split into its path and its last part. -/
inductive Statement
  | assign (path : List String) (key : String) (value : Value)
  | table (path : List String) (key : String)
  | element (path : List String) (key : String)

namespace Document

/-- The nesting that a document may not reach. -/
def nestingLimit : Nat := 80

def isBareKeyChar (c : Char) : Bool := c.isAlphanum || c == '_' || c == '-'

/-- Blanks, which may stand around keys and values. -/
def blanks : Parser Unit := do
  let _ ← Parser.spanning Quoted.isBlank

def comment : Parser Unit := do
  Parser.char '#'
  let _ ← Parser.spanning Quoted.isPlain

/-- One part of a key. -/
def keyPart : Parser String := do
  return String.ofList
    (← Quoted.basic <|> Quoted.literal <|> Parser.spanning1 isBareKeyChar)

/-- A key as the path to a table and the last part. -/
def key : Parser (List String × String) := do
  let parts ← Parser.separated (do blanks; let k ← keyPart; blanks; return k) (Parser.char '.')
  Parser.require (parts.length < nestingLimit)
  match parts.getLast? with
  | some k => return (parts.dropLast, k)
  | none => failure

/-- Blanks, comments and line breaks between the items of an array. -/
def gap : Parser Unit := do
  let _ ← Parser.many (Quoted.newline <|> (do comment; Quoted.newline) <|>
    (do let _ ← Parser.spanning1 Quoted.isBlank))

/-- An array of values. -/
def array (value : Parser Value) : Parser Value := do
  Parser.char '['
  let items ← Parser.separated (do gap; let v ← value; gap; return v) (Parser.char ',')
  if !items.isEmpty then let _ ← Parser.perhaps (Parser.char ',')
  gap
  Parser.char ']'
  return .array items

/-- An assignment inside a table in braces. -/
def pair (value : Parser Value) : Parser ((List String × String) × Value) := do
  let k ← key
  Parser.char '='
  blanks
  let v ← value
  blanks
  return (k, v)

/-- A table in braces. -/
def braces (value : Parser Value) : Parser Value := do
  Parser.char '\x7b'
  let pairs ← Parser.separated (pair value) (Parser.char ',')
  blanks
  Parser.char '\x7d'
  let entries ← pairs.foldlM (fun (es : Entries) p => es.assign p.1.1 p.1.2 p.2 .header) []
  return .table .braces entries

/-- A value in which arrays and tables in braces nest up to a depth. -/
def value : Nat → Parser Value
  | 0 => Quoted.string <|> Scalar.scalar
  | depth + 1 => Quoted.string <|> Scalar.scalar <|> array (value depth) <|> braces (value depth)

/-- The end of a line or of the document. -/
def lineEnd : Parser Unit := Quoted.newline <|> Parser.atEnd

/-- What may stand behind a statement. -/
def trailer : Parser Unit := do
  blanks
  let _ ← Parser.perhaps comment
  lineEnd

/-- A header, between brackets. -/
def header (opening closing : List Char) : Parser (List String × String) := do
  Parser.text opening
  let k ← key
  Parser.text closing
  trailer
  return k

/-- One statement, or a line without one. -/
def statement? : Parser (Option Statement) := do
  match ← Parser.peek with
  | some '#' => comment; lineEnd; return none
  | some '[' =>
    let element : Parser Statement := do
      let k ← header ['[', '['] [']', ']']
      return .element k.1 k.2
    let table : Parser Statement := do
      let k ← header ['['] [']']
      return .table k.1 k.2
    return some (← element <|> table)
  | some '\n' | some '\r' => Quoted.newline; return none
  | _ =>
    let k ← key
    Parser.char '='
    blanks
    let v ← value (nestingLimit - 1)
    trailer
    return some (.assign k.1 k.2 v)

/-- The statements of a text, behind a byte order mark if there is one. -/
def statements : Parser (List Statement) := do
  let _ ← Parser.perhaps (Parser.char '\ufeff')
  blanks
  let lines ← Parser.many (do let s ← statement?; blanks; return s)
  return lines.filterMap id

/-- A document under construction: what it says so far, and the table to which assignments go. -/
structure Draft where
  entries : Entries := []
  place : List String := []

/-- Carries out one statement. -/
def Draft.add (d : Draft) : Statement → Option Draft
  | .assign path k v => do
    let entries ← d.entries.update (Entries.assign path k v) false d.place .header
    return { d with entries }
  | .table path k => do
    return { entries := ← d.entries.openTable path k, place := path ++ [k] }
  | .element path k => do
    return { entries := ← d.entries.openElement path k, place := path ++ [k] }

/-- The entries of the document that a text holds. -/
def entries? (s : String) : Option Entries := do
  let all ← Parser.whole? statements s.toList
  let draft ← all.foldlM Draft.add {}
  return draft.entries

end Document

end InputTap.Toml
