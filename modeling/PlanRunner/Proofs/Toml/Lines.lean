import PlanRunner.Proofs.Toml.Words
import PlanRunner.Settings.Text

/-!
# Lines of TOML

A text with one line for each key is read line by line, in any order of the keys, and its table has
the values of the lines.
-/

namespace PlanRunner.Toml

variable {characters rest : List Char} {fuel : Nat}

/-- A key, the text of a value, and the value itself. -/
structure Line where
  key : String
  text : String
  value : Value

namespace Line

def toText (line : Line) : String := Settings.line line.key line.text

def statement (line : Line) : Statement := .assign [] line.key line.value

/-- The key of a line needs no quotes, and the text is that of the value. -/
structure Plain (line : Line) : Prop where
  nonempty : line.key.toList ≠ []
  bare : ∀ character ∈ line.key.toList, isBareKey character = true
  writes : Writes line.text.toList line.value

variable {line : Line}

theorem toList_toText (line : Line) (rest : List Char) :
    line.toText.toList ++ rest =
      line.key.toList ++ ' ' :: '=' :: ' ' :: (line.text.toList ++ '\n' :: rest) := by
  simp [toText, Settings.line]

end Line

/-! ## Keys -/

section Keys

variable {key : List Char} (nonempty : key ≠ [])
  (bare : ∀ character ∈ key, isBareKey character = true)

include nonempty bare

/-- A key without quotes starts neither with a blank nor in a new line, nor with a bracket. -/
theorem bare_ne_cons {other : Char} (noKey : isBareKey other = false) (rest more : List Char) :
    key ++ rest ≠ other :: more := by
  obtain ⟨first, others, rfl⟩ := List.exists_cons_of_ne_nil nonempty
  intro same
  have isBare := bare first List.mem_cons_self
  rw [(List.cons.inj same).1, noKey] at isBare
  contradiction

theorem skipBlanks_bare (rest : List Char) : skipBlanks (key ++ rest) = key ++ rest := by
  obtain ⟨first, others, rfl⟩ := List.exists_cons_of_ne_nil nonempty
  have different {other : Char} (noKey : isBareKey other = false) : first ≠ other := fun same =>
    bare_ne_cons nonempty bare noKey rest (others ++ rest) (by rw [← same]; rfl)
  have noBlank : ¬(first = ' ' ∨ first = '\t') := not_or.2 ⟨different rfl, different rfl⟩
  rw [skipBlanks, List.cons_append, List.dropWhile_cons_of_neg (by simpa using noBlank)]

theorem skipLines_bare (rest : List Char) :
    skipLines (fuel + 1) (key ++ rest) = some (key ++ rest) := by
  rw [skipLines, skipBlanks_bare nonempty bare]
  split
  case h_1 same => exact absurd same (bare_ne_cons nonempty bare rfl _ _)
  case h_2 same => exact absurd same (bare_ne_cons nonempty bare rfl _ _)
  case h_3 same => exact absurd same (bare_ne_cons nonempty bare rfl _ _)
  case h_4 => rfl

/-- A key without quotes is read up to the blank behind it. -/
theorem simpleKey_bare (rest : List Char) :
    simpleKey (key ++ ' ' :: rest) = some (String.ofList key, ' ' :: rest) := by
  have noKey : ¬isBareKey ' ' = true := by decide
  have taken : (key ++ ' ' :: rest).takeWhile isBareKey = key := by
    rw [List.takeWhile_append_of_pos bare, List.takeWhile_cons_of_neg noKey, List.append_nil]
  have left : (key ++ ' ' :: rest).dropWhile isBareKey = ' ' :: rest := by
    rw [List.dropWhile_append_of_pos bare, List.dropWhile_cons_of_neg noKey]
  unfold simpleKey
  split
  case h_1 same => exact absurd same (bare_ne_cons nonempty bare rfl _ _)
  case h_2 same => exact absurd same (bare_ne_cons nonempty bare rfl _ _)
  case h_3 => simp only [taken, left, List.isEmpty_iff, nonempty, if_false]

theorem dottedKey_bare (rest : List Char) :
    dottedKey (fuel + 1) (key ++ ' ' :: '=' :: rest) =
      some (([], String.ofList key), '=' :: rest) := by
  have sign : skipBlanks (' ' :: '=' :: rest) = '=' :: rest := rfl
  have parts : keyParts (fuel + 1) (key ++ ' ' :: '=' :: rest) =
      some (([], String.ofList key), '=' :: rest) := by
    rw [keyParts, skipBlanks_bare nonempty bare, simpleKey_bare nonempty bare]
    simp only [Option.bind_eq_bind, Option.bind_some, sign]
    rfl
  rw [dottedKey, parts]
  rfl

end Keys

/-! ## Statements -/

namespace Line.Plain

variable {line : Line}

theorem parseField (plain : line.Plain) (rest : List Char) :
    parseField (fuel + 2) 0 (line.toText.toList ++ rest) =
      some (line.statement, '\n' :: rest) := by
  have sign (more : List Char) : skipBlanks ('=' :: more) = '=' :: more := rfl
  have gap : skipBlanks (' ' :: (line.text.toList ++ '\n' :: rest)) =
      line.text.toList ++ '\n' :: rest := plain.writes.noBlank _
  rw [toList_toText, Toml.parseField]
  simp only [dottedKey_bare plain.nonempty plain.bare, Option.bind_eq_bind, Option.bind_some,
    if_true, sign, gap, plain.writes.isRead]
  simp only [statement, String.ofList_toList, Option.pure_def]

theorem parseStatement (plain : line.Plain) (rest : List Char) :
    parseStatement (fuel + 2) (line.toText.toList ++ rest) =
      some (line.statement, '\n' :: rest) := by
  have isField : Toml.parseField (fuel + 2) 0 (line.toText.toList ++ rest) =
      some (line.statement, '\n' :: rest) := plain.parseField rest
  rw [toList_toText] at isField ⊢
  unfold Toml.parseStatement
  split
  case h_1 same => exact absurd same (bare_ne_cons plain.nonempty plain.bare rfl _ _)
  case h_2 same => exact absurd same (bare_ne_cons plain.nonempty plain.bare rfl _ _)
  case h_3 => exact isField

end Line.Plain

theorem parseStatements_lines {lines : List Line} (plain : ∀ line ∈ lines, line.Plain)
    (room : lines.length + 3 ≤ fuel) :
    parseStatements fuel (lines.flatMap (·.toText.toList)) = some (lines.map (·.statement)) := by
  induction lines generalizing fuel with
  | nil =>
      obtain ⟨more, rfl⟩ := Nat.exists_eq_add_of_le' (show 2 ≤ fuel by omega)
      rfl
  | cons line others ih =>
      obtain ⟨isPlain, othersPlain⟩ := List.forall_mem_cons.1 plain
      rw [List.length_cons] at room
      obtain ⟨more, rfl⟩ := Nat.exists_eq_add_of_le' (show 4 ≤ fuel by omega)
      have later : parseStatements (more + 3) (others.flatMap (·.toText.toList)) =
          some (others.map (·.statement)) := ih othersPlain (by omega)
      rw [List.flatMap_cons, parseStatements]
      have skipped : skipLines (more + 3) (line.toText.toList ++ others.flatMap (·.toText.toList)) =
          some (line.toText.toList ++ others.flatMap (·.toText.toList)) := by
        rw [line.toList_toText]
        exact skipLines_bare isPlain.nonempty isPlain.bare _
      have stated :
          parseStatement (more + 3) (line.toText.toList ++ others.flatMap (·.toText.toList)) =
            some (line.statement, '\n' :: others.flatMap (·.toText.toList)) :=
        isPlain.parseStatement _
      have ended : endLine ('\n' :: others.flatMap (·.toText.toList)) =
          some (others.flatMap (·.toText.toList)) := rfl
      rw [skipped, Option.bind_eq_bind, Option.bind_some]
      split
      · simp_all [Line.toText, Settings.line]
      · simp only [Option.bind_eq_bind, stated, Option.bind_some, ended, later]
        rfl

theorem length_le_length_lines (lines : List Line) :
    lines.length ≤ (lines.flatMap (·.toText.toList)).length := by
  induction lines with
  | nil => exact Nat.le_refl _
  | cons line others ih =>
      have some : 1 ≤ line.toText.toList.length := by
        simp only [Line.toText, Settings.line, String.toList_append, List.length_append]
        exact Nat.le_add_left 1 _
      rw [List.flatMap_cons, List.length_append, List.length_cons]
      omega

theorem dropMark_lines {lines : List Line} (plain : ∀ line ∈ lines, line.Plain) :
    dropMark (lines.flatMap (·.toText.toList)) = lines.flatMap (·.toText.toList) := by
  cases lines with
  | nil => rfl
  | cons line others =>
      have isPlain := plain line List.mem_cons_self
      unfold dropMark
      split
      case h_1 same =>
        rw [List.flatMap_cons, line.toList_toText] at same
        exact absurd same (bare_ne_cons isPlain.nonempty isPlain.bare rfl _ _)
      case h_2 => rfl

/-! ## Tables -/

/-- A new key is put behind the others. -/
theorem Node.update_of_not_mem {key : String} {change : Option Node → Option Node} {node : Node}
    (changed : change none = some node) {entries : List (String × Node)}
    (absent : key ∉ entries.map Prod.fst) :
    update key change entries = some (entries ++ [(key, node)]) := by
  induction entries with
  | nil => simp only [update, changed, Option.map_some, List.nil_append]
  | cons entry rest ih =>
      obtain ⟨other, isOther⟩ := entry
      rw [List.map_cons, List.mem_cons, not_or] at absent
      rw [update, if_neg (Ne.symm absent.1), ih absent.2]
      rfl

theorem Node.assign_of_not_mem {key : String} (value : Value) {entries : List (String × Node)}
    (absent : key ∉ entries.map Prod.fst) :
    assign value [] key entries = some (entries ++ [(key, .leaf value)]) := by
  rw [assign, within]
  exact update_of_not_mem rfl absent

/-- Lines with different keys become entries one after the other. -/
theorem Node.follow_lines {lines : List Line} {entries : List (String × Node)}
    (distinct : (entries.map Prod.fst ++ lines.map (·.key)).Nodup) :
    follow [] (lines.map (·.statement)) entries =
      some (entries ++ lines.map fun line => (line.key, .leaf line.value)) := by
  induction lines generalizing entries with
  | nil => simp [follow]
  | cons line others ih =>
      have absent : line.key ∉ entries.map Prod.fst := fun member =>
        (List.nodup_append.1 distinct).2.2 _ member _ List.mem_cons_self rfl
      have assigned : within false (fun _ => assign line.value [] line.key) [] false entries =
          some (entries ++ [(line.key, .leaf line.value)]) := by
        rw [within]
        exact assign_of_not_mem line.value absent
      rw [List.map_cons, Line.statement, follow, assigned, Option.bind_some, ih]
      · simp
      · simpa using distinct

theorem Node.entriesToValues_lines (lines : List Line) :
    entriesToValues (lines.map fun line => (line.key, .leaf line.value)) =
      lines.map fun line => (line.key, line.value) := by
  induction lines with
  | nil => rw [List.map_nil, entriesToValues, List.map_nil]
  | cons line others ih => rw [List.map_cons, entriesToValues, toValue, ih, List.map_cons]

/-- The text of lines with different keys is a table with their values. -/
theorem Table.ofText_lines {lines : List Line} (plain : ∀ line ∈ lines, line.Plain)
    (distinct : (lines.map (·.key)).Nodup) :
    ofText (String.join (lines.map (·.toText))) =
      some (Keyed.ofList (lines.map fun line => (line.key, line.value))) := by
  have enough := length_le_length_lines lines
  have room : lines.length + 3 ≤ 4 * (lines.flatMap (·.toText.toList)).length + 4 := by omega
  have filled : Node.follow [] (lines.map (·.statement)) [] =
      some (lines.map fun line => (line.key, .leaf line.value)) := by
    rw [Node.follow_lines (by simpa using distinct), List.nil_append]
  have text : (String.join (lines.map (·.toText))).toList = lines.flatMap (·.toText.toList) := by
    rw [String.toList_join, List.flatMap_map]
  simp only [ofText, text, dropMark_lines plain, parseStatements_lines plain room, Option.bind_some,
    ofStatements, filled, Option.map_some, Node.entriesToValues_lines]

end PlanRunner.Toml
