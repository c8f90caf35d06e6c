/-!
# Paths

A path is a text whose parts are separated by slashes; one that begins with a slash starts at the
root. `join` and `parent?` work on the text and ask no file system.
-/

set_option autoImplicit false

namespace InputTap.Files.Path

def isAbsolute (p : String) : Bool := p.startsWith "/"

/-- The path `q` seen from `p`, with one slash between them. -/
def join (p q : String) : String :=
  if isAbsolute q || p.isEmpty then q
  else if p.endsWith "/" then p ++ q
  else p ++ "/" ++ q

/-- The parts of a path; an empty part stands before, behind and between slashes that meet. -/
def parts (p : String) : List String := p.splitOn "/"

/-- A path without the slashes at its end; the root stays the root. -/
def withoutSlashes (p : String) : String :=
  let cs := (p.toList.reverse.dropWhile (· == '/')).reverse
  if cs.isEmpty && !p.isEmpty then "/" else String.ofList cs

/-- Drops the slashes and the single dots behind a slash from the front of reversed characters. -/
def dropIdle : List Char → List Char
  | '/' :: r => dropIdle r
  | '.' :: '/' :: r => dropIdle r
  | r => r

/-- The characters of a path without the slashes and the single dots at its end, which lead nowhere
else; a dot that is all of the path stays. -/
def withoutIdle (cs : List Char) : List Char := (dropIdle cs.reverse).reverse

/-- The path of the directory that a path lies in; the root and the empty path lie in none. -/
def parent? (p : String) : Option String :=
  let cs := withoutIdle p.toList
  if cs.isEmpty then none
  else
    let front := (cs.reverse.dropWhile (· != '/')).reverse
    let dir := withoutIdle front
    some (if dir.isEmpty && !front.isEmpty then "/" else String.ofList dir)

end InputTap.Files.Path
