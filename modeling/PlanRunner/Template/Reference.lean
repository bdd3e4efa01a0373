import PlanRunner.Text.Blank

/-!
# References

A reference in a text is an identifier with an optional path, between two pairs of braces. Blanks
may stand inside the braces, and the segments of the path follow the identifier, each after a dot.
A text splits into references and the characters between them: the leftmost reference comes first,
and the search goes on behind it.
-/

namespace PlanRunner

/-- A step, or the input, and where to look in its result. -/
structure Reference where
  id : String
  path : List String
  deriving DecidableEq, Repr

namespace Reference

/-- The text of a reference without braces. -/
def label (reference : Reference) : String :=
  String.intercalate "." (reference.id :: reference.path)

/-- Whether a character may stand in an identifier or in a segment. -/
def isNameCharacter (character : Char) : Bool :=
  character.isAlphanum || character == '_' || character == '-'

/-- Reads the segments that follow an identifier, as far as they go. -/
def readPath : List Char → List String × List Char
  | '.' :: rest =>
      let name := rest.takeWhile isNameCharacter
      if name.isEmpty then ([], '.' :: rest)
      else
        let (path, after) := readPath (rest.dropWhile isNameCharacter)
        (String.ofList name :: path, after)
  | characters => ([], characters)
termination_by characters => characters.length
decreasing_by
  have := (List.dropWhile_suffix isNameCharacter (l := rest)).length_le
  simp only [List.length_cons]
  omega

/-- Reads a reference at the start of a text, and tells what follows it. -/
def read? : List Char → Option (Reference × List Char)
  | '\x7b' :: '\x7b' :: inside =>
      let inside := Text.trimLeft inside
      let name := inside.takeWhile isNameCharacter
      if name.isEmpty then none
      else
        let (path, after) := readPath (inside.dropWhile isNameCharacter)
        match Text.trimLeft after with
        | '\x7d' :: '\x7d' :: rest => some (⟨String.ofList name, path⟩, rest)
        | _ => none
  | _ => none

end Reference

/-- A piece of a text: a character that stands for itself, or a reference as it is written. -/
inductive Piece where
  | literal (character : Char)
  | reference (source : List Char) (target : Reference)
  deriving DecidableEq, Repr

namespace Piece

/-- The characters of a piece as they are written. -/
def source : Piece → List Char
  | .literal character => [character]
  | .reference source _ => source

def split (characters : List Char) : List Piece :=
  match characters with
  | [] => []
  | character :: rest =>
      match Reference.read? (character :: rest) with
      | some (target, after) =>
          let size := rest.length - after.length
          .reference (character :: rest.take size) target :: split (rest.drop size)
      | none => .literal character :: split rest
termination_by characters.length
decreasing_by
  · simp only [List.length_drop, List.length_cons]
    omega
  · simp

end Piece

end PlanRunner
