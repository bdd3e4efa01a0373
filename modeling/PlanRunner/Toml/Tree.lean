import PlanRunner.Order.Keyed
import PlanRunner.Toml.Value

/-!
# TOML tables

A TOML text fills a tree of tables statement by statement. Dotted keys and headers make the tables
that they pass through, and the rules on what may be extended afterwards depend on how a table came
to be.
-/

namespace PlanRunner.Toml

/--
A part of the tree. A table is implicit as long as it has no header of its own, and dotted once a
dotted key has passed through it. The elements of an array of tables have headers of their own.
-/
inductive Node where
  | leaf (value : Value)
  | table (implicit dotted : Bool) (entries : List (String × Node))
  | elements (tables : List (List (String × Node)))

instance : Inhabited Node := ⟨.table true false []⟩

/-- What a text says. -/
inductive Statement where
  /-- A key, perhaps dotted, is given a value. -/
  | assign (path : List String) (key : String) (value : Value)
  /-- What follows belongs to a table. -/
  | table (path : List String) (key : String)
  /-- What follows belongs to a new element of an array of tables. -/
  | element (path : List String) (key : String)

namespace Node

/-- Changes the entry under a key, or adds one. -/
def update (key : String) (change : Option Node → Option Node) :
    List (String × Node) → Option (List (String × Node))
  | [] => (change none).map fun node => [(key, node)]
  | (other, node) :: rest =>
      if other = key then (change (some node)).map fun node => (other, node) :: rest
      else (update key change rest).map ((other, node) :: ·)

def updateLast (change : List (String × Node) → Option (List (String × Node))) :
    List (List (String × Node)) → Option (List (List (String × Node)))
  | [] => none
  | [last] => (change last).map ([·])
  | first :: rest => (updateLast change rest).map (first :: ·)

/--
Changes the table at the end of a path, which is told whether it is dotted. Tables that are missing
on the way are made. A dotted key does not pass through a table that has a header, and it makes the
tables that it passes through dotted.
-/
def within (dotted : Bool)
    (change : Bool → List (String × Node) → Option (List (String × Node))) :
    List String → Bool → List (String × Node) → Option (List (String × Node))
  | [], isDotted, entries => change isDotted entries
  | key :: path, _, entries =>
      update key
        (fun node =>
          match node with
          | none => (within dotted change path dotted []).map (.table true dotted)
          | some (.table implicit isDotted inner) =>
              if dotted && !implicit then none
              else
                let isDotted := isDotted || dotted
                (within dotted change path isDotted inner).map (.table implicit isDotted)
          | some (.elements tables) =>
              (updateLast (within dotted change path false) tables).map .elements
          | some (.leaf _) => none)
        entries

/-- Gives a new key a value. -/
def assign (value : Value) (path : List String) (key : String) (entries : List (String × Node)) :
    Option (List (String × Node)) :=
  within true
    (fun isDotted entries =>
      if isDotted == path.isEmpty then none
      else
        update key
          (fun node => if node.isSome then none else some (.leaf value))
          entries)
    path false entries

/-- Gives a table a header, which it must not have had before. -/
def openTable (path : List String) (key : String) (entries : List (String × Node)) :
    Option (List (String × Node)) :=
  within false
    (fun _ entries =>
      update key
        (fun node =>
          match node with
          | none => some (.table false false [])
          | some (.table true false inner) => some (.table false false inner)
          | _ => none)
        entries)
    path false entries

/-- Adds an element to an array of tables. -/
def openElement (path : List String) (key : String) (entries : List (String × Node)) :
    Option (List (String × Node)) :=
  within false
    (fun _ entries =>
      update key
        (fun node =>
          match node with
          | none => some (.elements [[]])
          | some (.elements tables) => some (.elements (tables ++ [[]]))
          | _ => none)
        entries)
    path false entries

/-- Follows statements in order, given the path of the header that they belong to. -/
def follow : List String → List Statement → List (String × Node) → Option (List (String × Node))
  | _, [], entries => some entries
  | header, statement :: rest, entries =>
      match statement with
      | .assign path key value =>
          (within false (fun _ => assign value path key) header false entries).bind
            (follow header rest)
      | .table path key => (openTable path key entries).bind (follow (path ++ [key]) rest)
      | .element path key => (openElement path key entries).bind (follow (path ++ [key]) rest)

mutual

/-- The value of a part of the tree. -/
def toValue : Node → Value
  | .leaf value => value
  | .table _ _ entries => .table (Keyed.ofList (entriesToValues entries))
  | .elements tables => .array (tablesToValues tables)

def entriesToValues : List (String × Node) → List (String × Value)
  | [] => []
  | (key, node) :: rest => (key, toValue node) :: entriesToValues rest

/-- The values of the elements of an array of tables. -/
def tablesToValues : List (List (String × Node)) → List Value
  | [] => []
  | entries :: rest => .table (Keyed.ofList (entriesToValues entries)) :: tablesToValues rest

end

end Node

/-- The table that statements fill, with its keys in order. -/
def Table.ofStatements (statements : List Statement) : Option Table :=
  (Node.follow [] statements []).map fun entries => Keyed.ofList (Node.entriesToValues entries)

end PlanRunner.Toml
