import PlanRunner.Json.Parser
import PlanRunner.Proofs.Json.Lexemes

/-!
# Values that are read back

The compact text of a value is parsed back as the document of the value, up to what follows it. The
parser goes along the value: an item or a field after the first one is met behind its comma. What it
takes is that the value is not nested too deeply for its place, and that its numbers are read back.
-/

namespace PlanRunner

namespace Json

mutual

/-- How deeply arrays and objects are nested in a value. -/
def depth : Json → Nat
  | .array items => depthItems items + 1
  | .object fields => depthFields fields + 1
  | _ => 0

/-- How deeply the items of a list are nested at most. -/
def depthItems : List Json → Nat
  | [] => 0
  | item :: rest => max item.depth (depthItems rest)

/-- How deeply the values of a list of fields are nested at most. -/
def depthFields : List (String × Json) → Nat
  | [] => 0
  | (_, value) :: rest => max value.depth (depthFields rest)

end

mutual

/-- Every number in the value is read back. -/
def ReadsBack : Json → Prop
  | .number value => value.ReadsBack
  | .array items => ReadsBackItems items
  | .object fields => ReadsBackFields fields
  | _ => True

/-- Every number in a list of items is read back. -/
def ReadsBackItems : List Json → Prop
  | [] => True
  | item :: rest => item.ReadsBack ∧ ReadsBackItems rest

/-- Every number in a list of fields is read back. -/
def ReadsBackFields : List (String × Json) → Prop
  | [] => True
  | (_, value) :: rest => value.ReadsBack ∧ ReadsBackFields rest

end

/-! ## The characters of the text -/

theorem toList_stringText (text : String) :
    (stringText text).toList = '"' :: (text.toList.flatMap escapedCharacter ++ ['"']) := by
  rw [stringText, String.toList_ofList, List.cons_append]

theorem toList_compact_array (item : Json) (rest : List Json) :
    (array (item :: rest)).compact.toList =
      '[' :: (item.compact.toList ++ ((compactItems rest).toList ++ [']'])) := by
  simp [compact]

theorem toList_compactItems (item : Json) (rest : List Json) :
    (compactItems (item :: rest)).toList =
      ',' :: (item.compact.toList ++ (compactItems rest).toList) := by
  simp [compactItems]

/-- A field as it is written, without its first quote. -/
def fieldText (key : String) (value : Json) : List Char :=
  key.toList.flatMap escapedCharacter ++ '"' :: ':' :: value.compact.toList

theorem toList_compact_object (key : String) (value : Json) (rest : List (String × Json)) :
    (object ((key, value) :: rest)).compact.toList =
      '\x7b' :: '"' :: (fieldText key value ++ ((compactFields rest).toList ++ ['\x7d'])) := by
  simp [compact, fieldText, toList_stringText]

theorem toList_compactFields (key : String) (value : Json) (rest : List (String × Json)) :
    (compactFields ((key, value) :: rest)).toList =
      ',' :: '"' :: (fieldText key value ++ (compactFields rest).toList) := by
  simp [compactFields, fieldText, toList_stringText]

/-- A character that the text of a value may start with. -/
def Opens (character : Char) : Prop :=
  character ∈ ['"', '[', '\x7b', 'n', 't', 'f', '-'] ∨ character.isDigit = true

theorem Opens.ne {character other : Char} (opens : Opens character)
    (noOpening : other ∉ ['"', '[', '\x7b', 'n', 't', 'f', '-']) (noDigit : other.isDigit = false) :
    character ≠ other := by
  rintro rfl
  rcases opens with member | isDigit
  · exact noOpening member
  · simp [noDigit] at isDigit

theorem exists_opens {value : Json} (readsBack : value.ReadsBack) :
    ∃ first tail, value.compact.toList = first :: tail ∧ Opens first := by
  cases value with
  | null => exact ⟨'n', _, rfl, .inl (by simp)⟩
  | boolean value =>
      cases value with
      | true => exact ⟨'t', _, rfl, .inl (by simp)⟩
      | false => exact ⟨'f', _, rfl, .inl (by simp)⟩
  | number value =>
      obtain ⟨first, tail, text, minus | isDigit⟩ := Lexeme.exists_of_number readsBack
      · exact ⟨first, tail, text, .inl (by simp [minus])⟩
      · exact ⟨first, tail, text, .inr isDigit⟩
  | string value => exact ⟨'"', _, toList_stringText value, .inl (by simp)⟩
  | array items =>
      cases items with
      | nil => exact ⟨'[', _, rfl, .inl (by simp)⟩
      | cons item rest => exact ⟨'[', _, toList_compact_array item rest, .inl (by simp)⟩
  | object fields =>
      cases fields with
      | nil => exact ⟨'\x7b', _, rfl, .inl (by simp)⟩
      | cons field rest => exact ⟨'\x7b', _, toList_compact_object _ _ rest, .inl (by simp)⟩

end Json

namespace Document

open Lexeme Json

variable {fuel level : Nat} {characters left rest : List Char} {character : Char} {first : Bool}
  {document : Document} {items : List Document} {fields : List (String × Document)}

/-! ## The steps of the parser -/

theorem skipSpace_of_opens (opens : Opens character) :
    skipSpace (character :: characters) = character :: characters := by
  have noSpace : character ≠ ' ' := opens.ne (by decide) rfl
  have noLine : character ≠ '\n' := opens.ne (by decide) rfl
  have noTab : character ≠ '\t' := opens.ne (by decide) rfl
  have noReturn : character ≠ '\r' := opens.ne (by decide) rfl
  simp [skipSpace, noSpace, noLine, noTab, noReturn]

/-- An array that is not empty has a first item. -/
theorem parseItems_first (opens : Opens character) :
    parseItems (fuel + 1) level true (character :: characters) =
      parseItem fuel level (character :: characters) := by
  rw [parseItems, skipSpace_of_opens opens]
  split
  · contradiction
  · rename_i same
    exact absurd (List.cons.inj same).1 (opens.ne (by decide) rfl)
  · rename_i same
    exact absurd (List.cons.inj same).1 (opens.ne (by decide) rfl)
  · rfl

/-- A comma comes before a further item. -/
theorem parseItems_comma (opens : Opens character) :
    parseItems (fuel + 1) level false (',' :: character :: characters) =
      parseItem fuel level (character :: characters) := by
  have comma : skipSpace (',' :: character :: characters) = ',' :: character :: characters := by
    simp [skipSpace]
  rw [parseItems, comma]
  simp only [Bool.false_eq_true, if_false]
  rw [skipSpace_of_opens opens]
  split
  · contradiction
  · rename_i same
    exact absurd (List.cons.inj same).1 (opens.ne (by decide) rfl)
  · rfl

theorem parseItems_close :
    parseItems (fuel + 1) level first (']' :: rest) = ([], none, .ok rest) := by
  simp [parseItems, skipSpace]

theorem parseItem_of (value : parseValue fuel (level + 1) characters = (document, .ok left))
    (more : parseItems fuel level false left = (items, none, .ok rest)) :
    parseItem (fuel + 1) level characters = (document :: items, none, .ok rest) := by
  simp only [parseItem, value, more]

theorem parseFields_first :
    parseFields (fuel + 1) level true ('"' :: characters) = parseField fuel level characters := by
  simp [parseFields, skipSpace]

/-- A comma comes before a further field. -/
theorem parseFields_comma :
    parseFields (fuel + 1) level false (',' :: '"' :: characters) =
      parseField fuel level characters := by
  simp [parseFields, skipSpace]

theorem parseFields_close :
    parseFields (fuel + 1) level first ('\x7d' :: rest) = ([], none, .ok rest) := by
  simp [parseFields, skipSpace]

theorem parseField_of (key : String)
    (value : parseValue fuel (level + 1) characters = (document, .ok left))
    (more : parseFields fuel level false left = (fields, none, .ok rest)) :
    parseField (fuel + 1) level
        (key.toList.flatMap escapedCharacter ++ '"' :: ':' :: characters) =
      ((key, document) :: fields, none, .ok rest) := by
  have colon : skipSpace (':' :: characters) = ':' :: characters := by simp [skipSpace]
  simp only [parseField, string_stringText, colon, value, more]

theorem parseValue_numeral (starts : character = '-' ∨ character.isDigit = true) :
    parseValue (fuel + 1) level (character :: characters) =
      ofNumeral (Lexeme.number (character :: characters)) := by
  have opens : Opens character := starts.imp_left fun minus => by simp [minus]
  have other : ∀ letter, letter ≠ '-' → letter.isDigit = false → character ≠ letter := by
    rintro letter noMinus noDigit rfl
    rcases starts with minus | isDigit
    · exact noMinus minus
    · simp [noDigit] at isDigit
  have noQuote : character ≠ '"' := other _ (by decide) rfl
  have noArray : character ≠ '[' := other _ (by decide) rfl
  have noObject : character ≠ '\x7b' := other _ (by decide) rfl
  have noNull : character ≠ 'n' := other _ (by decide) rfl
  have noTrue : character ≠ 't' := other _ (by decide) rfl
  have noFalse : character ≠ 'f' := other _ (by decide) rfl
  simp [parseValue, skipSpace_of_opens opens, starts]

theorem parseValue_array (shallow : level < nestingLimit)
    (content : parseItems fuel level true characters = (items, none, .ok rest)) :
    parseValue (fuel + 1) level ('[' :: characters) = (.array items none, .ok rest) := by
  simp [parseValue, skipSpace, content, contain, shallow]

theorem parseValue_object (shallow : level < nestingLimit)
    (content : parseFields fuel level true characters = (fields, none, .ok rest)) :
    parseValue (fuel + 1) level ('\x7b' :: characters) = (.object fields none, .ok rest) := by
  simp [parseValue, skipSpace, content, contain, shallow]

/-! ## Values -/

theorem delimited_compactItems (items : List Json) (rest : List Char) :
    Delimited ((compactItems items).toList ++ ']' :: rest) := by
  cases items with
  | nil => exact delimited_cons (by simp) rest
  | cons item others =>
      rw [toList_compactItems, List.cons_append]
      exact delimited_cons (by simp) _

theorem delimited_compactFields (fields : List (String × Json)) (rest : List Char) :
    Delimited ((compactFields fields).toList ++ '\x7d' :: rest) := by
  cases fields with
  | nil => exact delimited_cons (by simp) rest
  | cons field others =>
      rw [toList_compactFields, List.cons_append]
      exact delimited_cons (by simp) _

mutual

/--
The text of a value is parsed as its document, up to what follows the text. Four steps of the parser
for each character are enough.
-/
theorem parseValue_compact : (value : Json) → ∀ (fuel level : Nat) (rest : List Char),
    value.ReadsBack → level + value.depth ≤ nestingLimit →
    4 * value.compact.toList.length ≤ fuel → Delimited rest →
      parseValue fuel level (value.compact.toList ++ rest) = (ofJson value, .ok rest)
  | .null => by
      intro fuel level rest _ _ enough _
      obtain ⟨fuel, rfl⟩ := Nat.exists_eq_add_of_le' (Nat.le_trans (by decide : 1 ≤ 16) enough)
      simp [parseValue, compact, skipSpace, ofLiteral, literal, ofJson]
  | .boolean value => by
      intro fuel level rest _ _ enough _
      cases value with
      | true =>
          obtain ⟨fuel, rfl⟩ := Nat.exists_eq_add_of_le' (Nat.le_trans (by decide : 1 ≤ 16) enough)
          simp [parseValue, compact, booleanText, skipSpace, ofLiteral, literal, ofJson]
      | false =>
          obtain ⟨fuel, rfl⟩ := Nat.exists_eq_add_of_le' (Nat.le_trans (by decide : 1 ≤ 20) enough)
          simp [parseValue, compact, booleanText, skipSpace, ofLiteral, literal, ofJson]
  | .number value => by
      intro fuel level rest readsBack _ enough delimited
      obtain ⟨first, tail, text, starts⟩ := exists_of_number readsBack
      rw [compact, text, List.length_cons] at enough
      obtain ⟨fuel, rfl⟩ := Nat.exists_eq_add_of_le' (Nat.le_trans (by omega : 1 ≤ _) enough)
      have scanned := number_append delimited readsBack
      rw [text, List.cons_append] at scanned
      rw [compact, text, List.cons_append, parseValue_numeral starts, scanned]
      rfl
  | .string value => by
      intro fuel level rest _ _ enough _
      rw [compact, toList_stringText] at enough ⊢
      simp only [List.length_cons] at enough
      obtain ⟨fuel, rfl⟩ := Nat.exists_eq_add_of_le' (Nat.le_trans (by omega : 1 ≤ _) enough)
      have scanned := string_stringText value rest
      simp only [List.cons_append, List.append_assoc, List.nil_append]
      simp [parseValue, skipSpace, scanned, ofScan, ofJson]
  | .array [] => by
      intro fuel level rest _ shallow enough _
      obtain ⟨fuel, rfl⟩ := Nat.exists_eq_add_of_le' (Nat.le_trans (by decide : 2 ≤ 8) enough)
      exact parseValue_array (Nat.lt_of_succ_le shallow) parseItems_close
  | .array (item :: others) => by
      intro fuel level rest readsBack shallow enough _
      rw [toList_compact_array] at enough ⊢
      simp only [List.length_cons, List.length_append] at enough
      simp only [depth, depthItems] at shallow
      obtain ⟨fuel, rfl⟩ := Nat.exists_eq_add_of_le' (Nat.le_trans (by omega : 3 ≤ _) enough)
      obtain ⟨first, tail, text, opens⟩ := exists_opens readsBack.1
      have value := parseValue_compact item fuel (level + 1)
        ((compactItems others).toList ++ ']' :: rest) readsBack.1 (by omega) (by omega)
        (delimited_compactItems others rest)
      have more := parseItems_compact others fuel level rest readsBack.2 (by omega) (by omega)
      have content : parseItems (fuel + 2) level true (item.compact.toList ++
          ((compactItems others).toList ++ ']' :: rest)) =
            (ofJson item :: ofItems others, none, .ok rest) := by
        rw [text, List.cons_append] at value ⊢
        rw [parseItems_first opens, parseItem_of value more]
      simpa [ofJson, ofItems] using parseValue_array (by omega) content
  | .object [] => by
      intro fuel level rest _ shallow enough _
      obtain ⟨fuel, rfl⟩ := Nat.exists_eq_add_of_le' (Nat.le_trans (by decide : 2 ≤ 8) enough)
      exact parseValue_object (Nat.lt_of_succ_le shallow) parseFields_close
  | .object ((key, value) :: others) => by
      intro fuel level rest readsBack shallow enough _
      rw [toList_compact_object] at enough ⊢
      simp only [List.length_cons, List.length_append, fieldText] at enough
      simp only [depth, depthFields] at shallow
      obtain ⟨fuel, rfl⟩ := Nat.exists_eq_add_of_le' (Nat.le_trans (by omega : 3 ≤ _) enough)
      have document := parseValue_compact value fuel (level + 1)
        ((compactFields others).toList ++ '\x7d' :: rest) readsBack.1 (by omega) (by omega)
        (delimited_compactFields others rest)
      have more := parseFields_compact others fuel level rest readsBack.2 (by omega) (by omega)
      have content := parseFields_first.trans (parseField_of key document more)
      simpa [fieldText, ofJson, ofFields] using parseValue_object (by omega) content

/-- The items after the first one are parsed up to the bracket that closes the array. -/
theorem parseItems_compact : (items : List Json) → ∀ (fuel level : Nat) (rest : List Char),
    ReadsBackItems items → level + 1 + depthItems items ≤ nestingLimit →
    4 * (compactItems items).toList.length + 4 ≤ fuel →
      parseItems fuel level false ((compactItems items).toList ++ ']' :: rest) =
        (ofItems items, none, .ok rest)
  | [] => by
      intro fuel level rest _ _ enough
      obtain ⟨fuel, rfl⟩ := Nat.exists_eq_add_of_le' (Nat.le_trans (by omega : 1 ≤ _) enough)
      exact parseItems_close
  | item :: others => by
      intro fuel level rest readsBack shallow enough
      rw [toList_compactItems] at enough ⊢
      simp only [List.length_cons, List.length_append] at enough
      simp only [depthItems] at shallow
      obtain ⟨fuel, rfl⟩ := Nat.exists_eq_add_of_le' (Nat.le_trans (by omega : 2 ≤ _) enough)
      obtain ⟨first, tail, text, opens⟩ := exists_opens readsBack.1
      have value := parseValue_compact item fuel (level + 1)
        ((compactItems others).toList ++ ']' :: rest) readsBack.1 (by omega) (by omega)
        (delimited_compactItems others rest)
      have more := parseItems_compact others fuel level rest readsBack.2 (by omega) (by omega)
      rw [List.cons_append, List.append_assoc, text, List.cons_append, parseItems_comma opens]
      rw [text, List.cons_append] at value
      exact parseItem_of value more

/-- The fields after the first one are parsed up to the bracket that closes the object. -/
theorem parseFields_compact : (fields : List (String × Json)) →
    ∀ (fuel level : Nat) (rest : List Char),
    ReadsBackFields fields → level + 1 + depthFields fields ≤ nestingLimit →
    4 * (compactFields fields).toList.length + 4 ≤ fuel →
      parseFields fuel level false ((compactFields fields).toList ++ '\x7d' :: rest) =
        (ofFields fields, none, .ok rest)
  | [] => by
      intro fuel level rest _ _ enough
      obtain ⟨fuel, rfl⟩ := Nat.exists_eq_add_of_le' (Nat.le_trans (by omega : 1 ≤ _) enough)
      exact parseFields_close
  | (key, value) :: others => by
      intro fuel level rest readsBack shallow enough
      rw [toList_compactFields] at enough ⊢
      simp only [List.length_cons, List.length_append, fieldText] at enough
      simp only [depthFields] at shallow
      obtain ⟨fuel, rfl⟩ := Nat.exists_eq_add_of_le' (Nat.le_trans (by omega : 2 ≤ _) enough)
      have document := parseValue_compact value fuel (level + 1)
        ((compactFields others).toList ++ '\x7d' :: rest) readsBack.1 (by omega) (by omega)
        (delimited_compactFields others rest)
      have more := parseFields_compact others fuel level rest readsBack.2 (by omega) (by omega)
      have content := parseFields_comma.trans (parseField_of key document more)
      simpa [fieldText, ofFields] using content

end

/-- The text of a value is read as its document, and nothing is left behind. -/
theorem ofText_compact {value : Json} (readsBack : value.ReadsBack)
    (shallow : value.depth ≤ nestingLimit) : ofText value.compact = (ofJson value, none) := by
  have parsed := parseValue_compact value (4 * value.compact.toList.length + 4) 0 [] readsBack
    (by omega) (by omega) delimited_nil
  rw [List.append_nil] at parsed
  simp [ofText, parsed, skipSpace]

end Document

end PlanRunner
