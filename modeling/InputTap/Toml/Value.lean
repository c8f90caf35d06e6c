/-!
# TOML values

A `Value` is what a TOML document says under a key. Numbers with a fraction and dates are kept as
they are written. A table remembers in which `Form` it came about, for that decides whether later
lines may add to it; an array of tables grows by headers and is told apart from a written array.
-/

set_option autoImplicit false

namespace InputTap.Toml

/-- How a table came about. -/
inductive Form
  /-- By a header of its own. -/
  | header
  /-- By the header of a table inside it. -/
  | implied
  /-- By a dotted key. -/
  | dotted
  /-- Written in braces. -/
  | braces
deriving DecidableEq, Inhabited

/-- A value of a document. -/
inductive Value
  | string (s : String)
  | integer (i : Int)
  | float (written : String)
  | boolean (b : Bool)
  | date (written : String)
  | array (items : List Value)
  | table (form : Form) (entries : List (String × Value))
  | tables (elements : List (List (String × Value)))
deriving Inhabited

/-- The entries of a table, in the order in which they were added. -/
abbrev Entries := List (String × Value)

namespace Entries

/-- The value of a key. -/
def valueOf? (es : Entries) (k : String) : Option Value := es.lookup k

/-- The entries with the value of a key set, at the place of the key if it is there. -/
def set : Entries → String → Value → Entries
  | [], k, v => [(k, v)]
  | e :: es, k, v => if e.1 = k then (k, v) :: es else e :: set es k v

/-- Changes the table at the end of a path and makes the tables on the way that are missing. Below a
dotted key these are `dotted` ones and a table with a header of its own may not be entered; a path
leads into the last element of an array of tables. -/
def update (change : Form → Entries → Option Entries) (dotted : Bool) :
    List String → Form → Entries → Option Entries
  | [], form, es => change form es
  | k :: ks, _, es => do
    match es.valueOf? k with
    | none =>
      let form := if dotted then Form.dotted else .implied
      return es.set k (.table form (← update change dotted ks form []))
    | some (.table form inner) =>
      if form = .braces then failure
      if dotted && form = .header then failure
      return es.set k (.table form (← update change dotted ks form inner))
    | some (.tables elements) =>
      let last ← elements.getLast?
      return es.set k
        (.tables (elements.dropLast ++ [← update change dotted ks .header last]))
    | some _ => failure

/-- Adds a value under a dotted key, given as the path to a table and the last part. The value goes
into the table itself or into tables that other dotted keys made. -/
def assign (path : List String) (k : String) (v : Value) (form : Form) (es : Entries) :
    Option Entries :=
  update (fun form inner => do
    if (form == .dotted) == path.isEmpty then failure
    if (inner.valueOf? k).isSome then failure
    return inner.set k v) true path form es

/-- Opens the table of a header, which may have been implied before but not more. -/
def openTable (path : List String) (k : String) (es : Entries) : Option Entries :=
  update (fun _ parent =>
    match parent.valueOf? k with
    | none => some (parent.set k (.table .header []))
    | some (.table .implied inner) => some (parent.set k (.table .header inner))
    | some _ => none) false path .header es

/-- Opens a new element of an array of tables. -/
def openElement (path : List String) (k : String) (es : Entries) : Option Entries :=
  update (fun _ parent =>
    match parent.valueOf? k with
    | none => some (parent.set k (.tables [[]]))
    | some (.tables elements) => some (parent.set k (.tables (elements ++ [[]])))
    | some _ => none) false path .header es

end Entries

end InputTap.Toml
