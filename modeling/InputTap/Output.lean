import InputTap.Log

/-!
# Output

What a program writes is a sequence of lines of its own and of lines of its log, in the order in
which they are written. `lines` and `logged` take the two kinds apart.
-/

set_option autoImplicit false

namespace InputTap

/-- A line that a program writes. -/
inductive Output
  | line (text : String)
  | log (line : Log.Line)
deriving DecidableEq, Inhabited

namespace Output

/-- The text of a line of the program's own. -/
def line? : Output → Option String
  | .line s => some s
  | .log _ => none

/-- The line of the log. -/
def log? : Output → Option Log.Line
  | .line _ => none
  | .log l => some l

/-- The text that is written. -/
def text : Output → String
  | .line s => s
  | .log l => l.shown

/-- The program's own lines. -/
def lines (os : List Output) : List String := os.filterMap line?

/-- The lines of the log. -/
def logged (os : List Output) : List Log.Line := os.filterMap log?

/-- A filter keeps all of the program's own lines. -/
def isKept (f : Log.Filter) : Output → Bool
  | .line _ => true
  | .log l => f.keeps l

/-- The output under a filter of the log. -/
def filtered (f : Log.Filter) (os : List Output) : List Output := os.filter (isKept f)

@[simp] theorem lines_cons_line (s : String) (os : List Output) :
    lines (.line s :: os) = s :: lines os := rfl

@[simp] theorem lines_cons_log (l : Log.Line) (os : List Output) :
    lines (.log l :: os) = lines os := rfl

@[simp] theorem lines_append (a b : List Output) : lines (a ++ b) = lines a ++ lines b := by
  simp [lines]

@[simp] theorem lines_map_log (ls : List Log.Line) : lines (ls.map .log) = [] := by
  simp [lines, line?]

@[simp] theorem logged_append (a b : List Output) : logged (a ++ b) = logged a ++ logged b := by
  simp [logged]

/-- A filter of the log leaves the program's own lines as they are. -/
theorem lines_filtered (f : Log.Filter) (os : List Output) : lines (filtered f os) = lines os := by
  rw [lines, filtered, List.filterMap_filter, lines]
  congr 1
  funext o
  cases o with
  | line s => rfl
  | log l => simp [line?]

/-- A filter of the log keeps just the lines of the log that it keeps. -/
theorem logged_filtered (f : Log.Filter) (os : List Output) :
    logged (filtered f os) = f.apply (logged os) := by
  rw [logged, filtered, List.filterMap_filter, Log.Filter.apply, logged, List.filter_filterMap]
  congr 1
  funext o
  cases o with
  | line s => rfl
  | log l => cases h : f.keeps l <;> simp [isKept, log?, Option.filter, h]

end Output

end InputTap
