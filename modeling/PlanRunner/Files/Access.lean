/-!
# Files

What a program may do with its files, and what can go wrong. The operations are given as functions,
so that the same program runs on a disk and on files held in memory.
-/

namespace PlanRunner

/-- Why something cannot be done with a file. -/
inductive FileError where
  | notFound
  | alreadyExists
  | notDirectory
  | isDirectory
  | nameTooLong
  /-- A character that no name has stands in a path. -/
  | nulInName
  /-- The bytes of a file are no text. -/
  | notText
  | other (text : String)
  deriving DecidableEq, Repr

/-- The text for what is wrong with a file. -/
def FileError.message : FileError → String
  | .notFound => "No such file or directory (os error 2)"
  | .alreadyExists => "File exists (os error 17)"
  | .notDirectory => "Not a directory (os error 20)"
  | .isDirectory => "Is a directory (os error 21)"
  | .nameTooLong => "File name too long (os error 36)"
  | .nulInName => "file name contained an unexpected NUL byte"
  | .notText => "stream did not contain valid UTF-8"
  | .other text => text

/-- How a program reaches its files. -/
structure FileAccess (m : Type → Type) where
  readText : String → m (Except FileError String)
  isThere : String → m Bool
  /-- Makes a directory and all those that it stands in, unless they are there. -/
  makeDirectories : String → m (Except FileError Unit)
  writeText : String → String → m (Except FileError Unit)

namespace FilePath

def names (path : String) : List String :=
  path.splitOn "/"

/-- A path that leads on from another one. -/
def join (path name : String) : String :=
  if path.isEmpty then name else if path.endsWith "/" then path ++ name else path ++ "/" ++ name

/-- Whether a name changes nothing in a path. -/
def isIdle (name : String) : Bool :=
  name.isEmpty || name = "."

/-- The names without the last one and without what changes nothing before it. -/
def dropLast (names : List String) : List String :=
  (((names.reverse.dropWhile isIdle).drop 1).dropWhile isIdle).reverse

/-- The path that a file stands in. It is empty for a file named without a path. -/
def parent (path : String) : String :=
  match dropLast (names path) with
  | [] => if path.startsWith "/" then "/" else ""
  | names => String.intercalate "/" names

/-- So many steps outwards, as long as there is a name left. -/
def climb : Nat → String → List String
  | 0, _ => []
  | steps + 1, path =>
      if path.all (· == '/') then [] else path :: climb steps (parent path)

/-- A path and those that it stands in, from the inside out. -/
def outwards (path : String) : List String :=
  climb (names path).length path

/-- The most bytes of a name. -/
def nameLimit : Nat := 255

/-- The most bytes of a path. -/
def pathLimit : Nat := 4095

/-- A path with a leading tilde replaced by the home directory, if there is one. -/
def expandHome (home : Option String) (path : String) : String :=
  match home, path.toList with
  | some home, ['~'] => home
  | some home, '~' :: '/' :: rest => home ++ "/" ++ String.ofList rest
  | _, _ => path

end FilePath

end PlanRunner
