import InputTap.Files.Path

/-!
# File trees

A `FileTree` holds files and directories under the root and has a working directory, from which
relative paths start. `read`, `write` and `makeDirs` answer as a file system does: a path leads
through directories only, and each kind of failure has its own `FileFault`.
-/

set_option autoImplicit false

namespace InputTap.Files

/-- A failure of the file system. -/
inductive FileFault
  | notFound
  | notDirectory
  | isDirectory
  | exists
  | nameTooLong
  /-- The bytes of the file are no text. -/
  | notText
  | other (message : String)
deriving DecidableEq, Inhabited

/-- The message of a failure. -/
def FileFault.message : FileFault → String
  | .notFound => "No such file or directory (os error 2)"
  | .notDirectory => "Not a directory (os error 20)"
  | .isDirectory => "Is a directory (os error 21)"
  | .exists => "File exists (os error 17)"
  | .nameTooLong => "File name too long (os error 36)"
  | .notText => "stream did not contain valid UTF-8"
  | .other message => message

/-- Something in a file tree. -/
inductive Node
  | directory
  | file (bytes : ByteArray)

/-- Files and directories by their parts below the root, and the working directory. -/
structure FileTree where
  nodes : List (List String × Node) := []
  workingDirectory : List String := []

namespace FileTree

/-- What lies at a place below the root. -/
def node? (t : FileTree) (place : List String) : Option Node :=
  if place.isEmpty then some .directory else t.nodes.lookup place

def isDirectory (t : FileTree) (place : List String) : Bool :=
  match t.node? place with
  | some .directory => true
  | _ => false

/-- Puts a node at a place, over what was there. -/
def put (t : FileTree) (place : List String) (n : Node) : FileTree :=
  { t with nodes := (place, n) :: t.nodes.filter fun e => e.1 != place }

/-- The longest name that a part of a path may have, in bytes. -/
def maxNameLength : Nat := 255

/-- The longest path that is followed, in bytes. -/
def maxPathLength : Nat := 4095

/-- The place that one part of a path leads to from another place. -/
def step (t : FileTree) (place : List String) (part : String) :
    Except FileFault (List String) :=
  if !t.isDirectory place then
    .error (if (t.node? place).isSome then .notDirectory else .notFound)
  else if part = "" ∨ part = "." then .ok place
  else if part = ".." then .ok place.dropLast
  else if maxNameLength < part.utf8ByteSize then .error .nameTooLong
  else .ok (place ++ [part])

/-- The place of a path, which need not exist itself. -/
def place (t : FileTree) (path : String) : Except FileFault (List String) :=
  if path.isEmpty then .error .notFound
  else if maxPathLength < path.utf8ByteSize then .error .nameTooLong
  else (Path.parts path).foldlM t.step (if Path.isAbsolute path then [] else t.workingDirectory)

/-- The bytes of a file. -/
def read (t : FileTree) (path : String) : Except FileFault ByteArray := do
  match t.node? (← t.place path) with
  | some (.file bytes) => .ok bytes
  | some .directory => .error .isDirectory
  | none => .error .notFound

/-- The text of a file. -/
def readText (t : FileTree) (path : String) : Except FileFault String := do
  match String.fromUTF8? (← t.read path) with
  | some s => .ok s
  | none => .error .notText

/-- Writes a file, over the one that was there. -/
def write (t : FileTree) (path : String) (bytes : ByteArray) : Except FileFault FileTree := do
  let place ← t.place path
  match t.node? place with
  | some .directory => .error .isDirectory
  | some (.file _) => .ok (t.put place (.file bytes))
  | none =>
    if t.isDirectory place.dropLast then .ok (t.put place (.file bytes)) else .error .notFound

/-- Makes one directory. Slashes may stand at the end of its path. -/
def makeDir (t : FileTree) (path : String) : Except FileFault FileTree := do
  let place ← t.place (Path.withoutSlashes path)
  if (t.node? place).isSome then .error .exists
  else if t.isDirectory place.dropLast then .ok (t.put place .directory)
  else .error .notFound

/-- The path leads to a directory. -/
def isDirectoryAt (t : FileTree) (path : String) : Bool :=
  match t.place path with
  | .ok place => t.isDirectory place
  | .error _ => false

/-- Makes a directory, which may be there already. -/
def ensureDir (t : FileTree) (path : String) : Except FileFault FileTree :=
  match t.makeDir path with
  | .ok t => .ok t
  | .error f => if t.isDirectoryAt path then .ok t else .error f

/-- Makes a directory and, up to `depth` levels, the directories above it that are missing. -/
def makeDirsUpTo (t : FileTree) : Nat → String → Except FileFault FileTree
  | 0, path => t.ensureDir path
  | depth + 1, path =>
    if path.isEmpty then .ok t
    else match t.ensureDir path with
      | .error .notFound =>
        match Path.parent? path with
        | none => .error .notFound
        | some above => do (← t.makeDirsUpTo depth above).ensureDir path
      | r => r

/-- Makes a directory and the directories above it that are missing. -/
def makeDirs (t : FileTree) (path : String) : Except FileFault FileTree :=
  t.makeDirsUpTo (path.length + 1) path

/-- Writes a file and makes the directories above it that are missing. -/
def store (t : FileTree) (path : String) (bytes : ByteArray) : Except FileFault FileTree := do
  let t ← match Path.parent? path with
    | none => pure t
    | some dir => t.makeDirs dir
  t.write path bytes

/-- The directories that every system has, and the empty file among its devices. -/
def system : FileTree where
  nodes := (["dev", "null"], .file .empty) ::
    ["bin", "dev", "etc", "home", "lib", "proc", "root", "run", "sys", "tmp", "usr", "var"].map
      fun name => ([name], .directory)

/-- The tree of a system with a working directory and the files stored from there one after
another, each by its path. -/
def ofFiles (workingDirectory : String) (files : List (String × ByteArray)) :
    Except FileFault FileTree := do
  let t ← system.makeDirs workingDirectory
  let start := { t with workingDirectory := ← t.place workingDirectory }
  files.foldlM (fun t f => t.store f.1 f.2) start

end FileTree

end InputTap.Files
