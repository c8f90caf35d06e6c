import InputTap.Settings.Basic
import InputTap.Toml.Document
import InputTap.Toml.Printer

/-!
# The text of settings

`Settings.ofText?` reads settings from a TOML document and `Settings.toText?` writes them as one.
When reading, a section may be a table or an array of its values in their order, unknown keys and
surplus values mean nothing, and what is missing has its default. A date in place of a section has
none of the known keys.
-/

set_option autoImplicit false

namespace InputTap

open Toml (Value Entries)

namespace Settings

/-- The values of the named keys of a section, in the order of the names. -/
def section? (names : List String) : Value → Option (List (Option Value))
  | .table _ es => some (names.map (Entries.valueOf? es))
  | .array items => some (names.mapIdx fun i _ => items[i]?)
  | .tables elements =>
    some (names.mapIdx fun i _ => elements[i]?.map fun es => .table .header es)
  | .date _ => some (names.map fun _ => none)
  | _ => none

/-- Reads a value that may be missing. -/
def orElse {α : Type} (read : Value → Option α) (default : α) : Option Value → Option α
  | none => some default
  | some v => read v

def boolean? : Value → Option Bool
  | .boolean b => some b
  | _ => none

def string? : Value → Option String
  | .string s => some s
  | _ => none

/-- A length of time: an integer that is not negative. -/
def millis? : Value → Option Millis
  | .integer i => if 0 ≤ i then some i.toNat else none
  | _ => none

/-- The key of exactly this name, the undefined one included. -/
def keyNamed? (s : String) : Option KeyCode :=
  (KeyCode.undefined :: KeyCode.all).find? fun k => k.name == s

/-- A key: its name, or a table whose only key is the name, with an empty table or array under
it. -/
def key? : Value → Option KeyCode
  | .string s => keyNamed? s
  | .table _ [(s, .table _ [])] | .table _ [(s, .array [])] => keyNamed? s
  | _ => none

def keys? : Value → Option (List KeyCode)
  | .array items => items.mapM key?
  | .tables elements => elements.mapM fun es => key? (.table .header es)
  | _ => none

def hook? (v : Value) : Option HookSettings := do
  match ← section? ["multi_click_time_ms", "epoch_time", "log_level"] v with
  | [time, epoch, level] =>
    let default : HookSettings := {}
    return {
      multiClickTime := ← orElse (fun v => (millis? v).map some) default.multiClickTime time
      epochTime := ← orElse boolean? default.epochTime epoch
      logLevel := ← orElse string? default.logLevel level }
  | _ => none

def post? (v : Value) : Option PostSettings := do
  match ← section? ["extended_keys"] v with
  | [keys] => return { extendedKeys := ← orElse keys? ({} : PostSettings).extendedKeys keys }
  | _ => none

/-- The settings that a document holds. -/
def ofEntries? (es : Entries) : Option Settings := do
  return {
    hook := ← orElse hook? {} (es.valueOf? "hook")
    post := ← orElse post? {} (es.valueOf? "post") }

/-- The settings that a text holds. -/
def ofText? (s : String) : Option Settings := Toml.Document.entries? s >>= ofEntries?

/-- The greatest integer that a document can hold. -/
def maxInteger : Nat := 9223372036854775807

/-- The text of settings; there is none when the click time exceeds the integers of a document. -/
def toText? (s : Settings) : Option String :=
  if s.hook.multiClickTime.any fun t => maxInteger < t then none
  else
    let time := s.hook.multiClickTime.toList.map fun t =>
      ("multi_click_time_ms", Text.Numeral.decimal t)
    let hook := Toml.Printer.table "hook" (time ++
      [("epoch_time", Toml.Printer.boolean s.hook.epochTime),
       ("log_level", Toml.Printer.string s.hook.logLevel)])
    let post := Toml.Printer.table "post"
      [("extended_keys",
        Toml.Printer.array (s.post.extendedKeys.map fun k => Toml.Printer.string k.name))]
    some (Toml.Printer.document [hook, post])

end Settings

end InputTap
