import PlanRunner.Files.Access
import PlanRunner.Order.Keyed

/-!
# Files in memory

All files of a system, held in memory, and the directory that a program works in. They answer the
same questions as a disk, with the same errors.
-/

namespace PlanRunner

/-- What stands under a name. The entries of a directory have different names. -/
inductive FileEntry where
  | file (bytes : List UInt8)
  | directory (entries : List (String × FileEntry))

/--
All files of a system: what stands in the root, and the names that lead from there to the directory
in which paths start unless they start with a slash.
-/
structure FileTree where
  start : List String
  entries : List (String × FileEntry)

/-- Where names lead: the names from the root on, the last one first, and what stands there. -/
structure FilePlace where
  names : List String
  entry : Option FileEntry

namespace FileEntry

def isDirectory : FileEntry → Bool
  | .file _ => false
  | .directory _ => true

/-- What stands at the end of names. -/
def find? : List String → List (String × FileEntry) → Option FileEntry
  | [], entries => some (.directory entries)
  | name :: rest, entries =>
      match entries.lookup name with
      | some (.directory inner) => find? rest inner
      | some (.file bytes) => if rest.isEmpty then some (.file bytes) else none
      | none => none

/-- Changes the directory at the end of names, if there is one. -/
def within (change : List (String × FileEntry) → List (String × FileEntry)) :
    List String → List (String × FileEntry) → List (String × FileEntry)
  | [], entries => change entries
  | name :: rest, entries =>
      match entries.lookup name with
      | some (.directory inner) =>
          Keyed.insert name (.directory (within change rest inner)) entries
      | _ => entries

/-- The directory that is changed is found where it was. -/
theorem find?_within {change : List (String × FileEntry) → List (String × FileEntry)}
    {names : List String} {entries inner : List (String × FileEntry)}
    (found : find? names entries = some (.directory inner)) :
    find? names (within change names entries) = some (.directory (change inner)) := by
  induction names generalizing entries with
  | nil =>
      simp only [find?, Option.some.injEq, FileEntry.directory.injEq] at found
      simp [find?, within, found]
  | cons name rest ih =>
      simp only [find?] at found
      split at found
      · rename_i outer isThere
        simp only [within, isThere, find?, Keyed.lookup_insert, if_true]
        exact ih found
      · split at found <;> simp at found
      · simp at found

end FileEntry

namespace FileTree

/-- A system without files. -/
def empty : FileTree := ⟨[], []⟩

/-- The place that names lead to, the last one first. -/
def placeOf (tree : FileTree) (names : List String) : FilePlace :=
  ⟨names, FileEntry.find? names.reverse tree.entries⟩

/-- Puts an entry in a place below the root, instead of what stood there before. -/
def put (tree : FileTree) (place : FilePlace) (entry : FileEntry) : FileTree :=
  match place.names with
  | [] => tree
  | name :: outer =>
      { tree with
        entries := FileEntry.within (Keyed.insert name entry) outer.reverse tree.entries }

/-- Takes away what stands in a place below the root. -/
def remove (tree : FileTree) (place : FilePlace) : FileTree :=
  match place.names with
  | [] => tree
  | name :: outer =>
      { tree with
        entries :=
          FileEntry.within (·.filter fun (other, _) => other ≠ name) outer.reverse tree.entries }

/-- The names of a path, unless the path as a whole is wrong. -/
def namesOf (path : String) : Except FileError (List String) :=
  if path.contains '\x00' then .error .nulInName
  else if FilePath.pathLimit < path.utf8ByteSize then .error .nameTooLong
  else if path.isEmpty then .error .notFound
  else .ok (FilePath.names path)

/-- The place that a path starts in. -/
def origin (tree : FileTree) (path : String) : FilePlace :=
  tree.placeOf (if path.startsWith "/" then [] else tree.start.reverse)

/--
Follows names from a place on. All but the last name have to lead to directories. There is no way
out of the root.
-/
def follow (tree : FileTree) : FilePlace → List String → Except FileError FilePlace
  | place, [] => .ok place
  | place, name :: rest =>
      match place.entry with
      | none => .error .notFound
      | some (.file _) => .error .notDirectory
      | some (.directory entries) =>
          if FilePath.isIdle name then tree.follow place rest
          else if name = ".." then tree.follow (tree.placeOf (place.names.drop 1)) rest
          else if FilePath.nameLimit < name.utf8ByteSize then .error .nameTooLong
          else tree.follow ⟨name :: place.names, entries.lookup name⟩ rest

def locate (tree : FileTree) (path : String) : Except FileError FilePlace := do
  tree.follow (tree.origin path) (← namesOf path)

def readText (tree : FileTree) (path : String) : Except FileError String := do
  match (← tree.locate path).entry with
  | none => .error .notFound
  | some (.directory _) => .error .isDirectory
  | some (.file bytes) =>
      match String.fromUTF8? (ByteArray.mk bytes.toArray) with
      | some text => .ok text
      | none => .error .notText

/-- What a path leads to, if it leads to anything. -/
def entry? (tree : FileTree) (path : String) : Option FileEntry :=
  match tree.locate path with
  | .ok place => place.entry
  | .error _ => none

/-- Whether a path leads to anything. -/
def isThere (tree : FileTree) (path : String) : Bool :=
  (tree.entry? path).isSome

def isDirectory (tree : FileTree) (path : String) : Bool :=
  (tree.entry? path).any FileEntry.isDirectory

/-- The names without those that come from slashes at the end of their path. -/
def dropSlashes (names : List String) : List String :=
  (names.reverse.dropWhile String.isEmpty).reverse

/--
Writes a file into a directory that is there. A slash at the end of the path asks for a directory,
which no file takes the place of, whatever the last name leads to.
-/
def writeBytes (tree : FileTree) (path : String) (bytes : List UInt8) :
    Except FileError FileTree := do
  let names ← namesOf path
  if path.endsWith "/" then
    let _ ← tree.follow (tree.origin path) ((dropSlashes names).dropLast ++ [""])
    .error .isDirectory
  else
    let place ← tree.follow (tree.origin path) names
    match place.entry with
    | some (.directory _) => .error .isDirectory
    | _ => .ok (tree.put place (.file bytes))

def makeDirectory (tree : FileTree) (path : String) : Except FileError FileTree := do
  let place ← tree.follow (tree.origin path) (dropSlashes (← namesOf path))
  match place.entry with
  | some _ => .error .alreadyExists
  | none => .ok (tree.put place (.directory []))

/-- Makes a directory unless it is there. -/
def ensureDirectory (tree : FileTree) (path : String) : Except FileError FileTree :=
  match tree.makeDirectory path with
  | .error .alreadyExists =>
      if tree.isDirectory path then .ok tree else .error .alreadyExists
  | result => result

/--
The directories that are still to be made for one to be there, from the outside in, and the tree
with the one around them. The paths are tried from the inside out until one does not lack the
directory that it stands in.
-/
def missing (tree : FileTree) (inner : List String) :
    List String → Except FileError (List String × FileTree)
  | [] => .ok (inner, tree)
  | path :: outer =>
      match tree.ensureDirectory path with
      | .ok tree => .ok (inner, tree)
      | .error .notFound => tree.missing (path :: inner) outer
      | .error error => .error error

/-- Makes directories one after the other. Those made before a failure stay. -/
def ensureAll (tree : FileTree) : List String → Except FileError Unit × FileTree
  | [] => (.ok (), tree)
  | path :: rest =>
      match tree.ensureDirectory path with
      | .ok tree => tree.ensureAll rest
      | .error error => (.error error, tree)

/-- Makes a directory and all those that it stands in. -/
def makeDirectories (path : String) (tree : FileTree) : Except FileError Unit × FileTree :=
  match tree.missing [] (FilePath.outwards path) with
  | .ok (paths, tree) => tree.ensureAll paths
  | .error error => (.error error, tree)

def bytesOf (text : String) : List UInt8 :=
  text.toUTF8.toList

/-- Writes a file. If it cannot be written, nothing changes. -/
def write (path : String) (bytes : List UInt8) (tree : FileTree) :
    Except FileError Unit × FileTree :=
  match tree.writeBytes path bytes with
  | .ok changed => (.ok (), changed)
  | .error error => (.error error, tree)

/-- How a program reaches files in memory. -/
def access : FileAccess (StateM FileTree) where
  readText path := return (← get).readText path
  isThere path := return (← get).isThere path
  makeDirectories path := makeDirectories path
  writeText path text := write path (bytesOf text)

end FileTree

end PlanRunner
