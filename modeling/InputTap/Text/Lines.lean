/-!
# Lines

A line of a printed text ends at a newline, and a carriage return right before the newline belongs
to the end of the line.
-/

set_option autoImplicit false

namespace InputTap.Text

/-- The characters without the carriage return that ends them, if one does. -/
def withoutReturn (cs : List Char) : List Char :=
  if cs.getLast? = some '\r' then cs.dropLast else cs

/-- The first line of a text that a newline follows. -/
def firstLine (s : String) : String :=
  String.ofList (withoutReturn (s.toList.takeWhile (· != '\n')))

/-- The lines of a text that a newline follows. -/
def lines (s : String) : List String :=
  (s.splitOn "\n").map fun l => String.ofList (withoutReturn l.toList)

end InputTap.Text
