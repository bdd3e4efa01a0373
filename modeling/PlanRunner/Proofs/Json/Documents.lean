import PlanRunner.Proofs.Json.Parsing
import PlanRunner.Proofs.Results

/-!
# Values and their documents

A normal value is the value of its own document. The value of any document is normal, and nested no
more deeply than the document; and the document that the parser finds at some depth of a text is
nested no more deeply than a reader follows from there.
-/

namespace PlanRunner

/-! ## Values -/

namespace Json

variable {items : List Json} {fields : List (String × Json)} {value : Json} {bound : Nat}

/-- A value is fit for a place if it is normal and not nested too deeply. -/
def Fits (room : Nat) (value : Json) : Prop :=
  value.Normal ∧ value.depth ≤ room

theorem Fits.mono {room more : Nat} (fits : Fits room value) (wider : room ≤ more) :
    Fits more value :=
  ⟨fits.1, Nat.le_trans fits.2 wider⟩

theorem normalFields_iff : NormalFields fields ↔ ∀ field ∈ fields, field.2.Normal := by
  induction fields with
  | nil => simp [NormalFields]
  | cons field rest ih => simp [NormalFields, ih]

theorem depthFields_le_iff :
    depthFields fields ≤ bound ↔ ∀ field ∈ fields, field.2.depth ≤ bound := by
  induction fields with
  | nil => simp [depthFields]
  | cons field rest ih => rw [depthFields, Nat.max_le, ih, List.forall_mem_cons]

theorem depthItems_le_iff : depthItems items ≤ bound ↔ ∀ item ∈ items, item.depth ≤ bound := by
  induction items with
  | nil => simp [depthItems]
  | cons item rest ih => rw [depthItems, Nat.max_le, ih, List.forall_mem_cons]

theorem readsBackItems_iff : ReadsBackItems items ↔ ∀ item ∈ items, item.ReadsBack := by
  induction items with
  | nil => simp [ReadsBackItems]
  | cons item rest ih => simp [ReadsBackItems, ih]

theorem readsBackFields_iff : ReadsBackFields fields ↔ ∀ field ∈ fields, field.2.ReadsBack := by
  induction fields with
  | nil => simp [ReadsBackFields]
  | cons field rest ih => simp [ReadsBackFields, ih]

end Json

namespace Document

open Json

variable {document : Document} {value : Json} {items : List Document} {values : List Json}
  {fields : List (String × Document)} {entries : List (String × Json)}

mutual

/-- A normal value is the value of its document. -/
theorem toJson_ofJson : (value : Json) → value.Normal → toJson (ofJson value) = .ok value
  | .null, _ => rfl
  | .boolean _, _ => rfl
  | .number _, _ => rfl
  | .string _, _ => rfl
  | .array items, normal => by
      simp [ofJson, toJson, itemsToJson_ofItems items normal, bind, Except.bind]
  | .object fields, normal => by
      simp [ofJson, toJson, fieldsToJson_ofFields fields normal.2, Keyed.ofList_of_sorted normal.1,
        bind, Except.bind]

theorem itemsToJson_ofItems : (items : List Json) → NormalItems items →
    itemsToJson (ofItems items) = .ok items
  | [], _ => rfl
  | item :: rest, normal => by
      simp [ofItems, itemsToJson, toJson_ofJson item normal.1, itemsToJson_ofItems rest normal.2,
        bind, Except.bind]

theorem fieldsToJson_ofFields : (fields : List (String × Json)) → NormalFields fields →
    fieldsToJson (ofFields fields) = .ok fields
  | [], _ => rfl
  | (key, value) :: rest, normal => by
      simp [ofFields, fieldsToJson, toJson_ofJson value normal.1,
        fieldsToJson_ofFields rest normal.2, bind, Except.bind]

end

mutual

/-- How deeply arrays and objects are nested in a document. -/
def depth : Document → Nat
  | .array items _ => depthItems items + 1
  | .object fields _ => depthFields fields + 1
  | _ => 0

/-- How deeply the items of a list are nested at most. -/
def depthItems : List Document → Nat
  | [] => 0
  | item :: rest => max item.depth (depthItems rest)

/-- How deeply the values of a list of fields are nested at most. -/
def depthFields : List (String × Document) → Nat
  | [] => 0
  | (_, value) :: rest => max value.depth (depthFields rest)

end

mutual

/-- The document of a value is nested as deeply as the value. -/
theorem depth_ofJson : (value : Json) → (ofJson value).depth = value.depth
  | .null | .boolean _ | .number _ | .string _ => by simp [ofJson, depth, Json.depth]
  | .array items => by simp [ofJson, depth, Json.depth, depthItems_ofItems items]
  | .object fields => by simp [ofJson, depth, Json.depth, depthFields_ofFields fields]

theorem depthItems_ofItems : (items : List Json) →
    depthItems (ofItems items) = Json.depthItems items
  | [] => rfl
  | item :: rest => by
      simp only [ofItems, depthItems, Json.depthItems, depth_ofJson item, depthItems_ofItems rest]

theorem depthFields_ofFields : (fields : List (String × Json)) →
    depthFields (ofFields fields) = Json.depthFields fields
  | [] => rfl
  | (_, value) :: rest => by
      simp only [ofFields, depthFields, Json.depthFields, depth_ofJson value,
        depthFields_ofFields rest]

end

mutual

/-- The value of a document is normal, and nested no more deeply than the document. -/
theorem fits_toJson : (document : Document) → ∀ value, toJson document = .ok value →
    Fits document.depth value
  | .null => by
      intro value read
      cases read
      exact ⟨trivial, Nat.le_refl _⟩
  | .boolean _ => by
      intro value read
      cases read
      exact ⟨trivial, Nat.le_refl _⟩
  | .number _ => by
      intro value read
      cases read
      exact ⟨trivial, Nat.le_refl _⟩
  | .string _ => by
      intro value read
      cases read
      exact ⟨trivial, Nat.le_refl _⟩
  | .array items breach => by
      intro value read
      obtain ⟨values, itemsRead, rest⟩ := exists_of_bind_eq_ok read
      cases breach with
      | some breach => contradiction
      | none =>
          cases rest
          obtain ⟨normal, shallow⟩ := fits_itemsToJson items values itemsRead
          exact ⟨normal, Nat.succ_le_succ shallow⟩
  | .object fields breach => by
      intro value read
      obtain ⟨entries, fieldsRead, rest⟩ := exists_of_bind_eq_ok read
      cases breach with
      | some breach => contradiction
      | none =>
          cases rest
          have fits := fits_fieldsToJson fields entries fieldsRead
          have kept : ∀ entry ∈ Keyed.ofList entries, Fits (depthFields fields) entry.2 :=
            fun entry member => fits entry (Keyed.mem_of_mem_ofList member)
          refine ⟨⟨Keyed.sorted_ofList entries, ?_⟩, Nat.succ_le_succ ?_⟩
          · exact normalFields_iff.2 fun entry member => (kept entry member).1
          · exact depthFields_le_iff.2 fun entry member => (kept entry member).2
  | .unreadable read skip => by
      intro value broken
      contradiction
  | .severed skip => by
      intro value broken
      contradiction

theorem fits_itemsToJson : (items : List Document) → ∀ values, itemsToJson items = .ok values →
    NormalItems values ∧ Json.depthItems values ≤ depthItems items
  | [] => by
      intro values read
      cases read
      exact ⟨trivial, Nat.le_refl _⟩
  | item :: rest => by
      intro values read
      obtain ⟨value, itemRead, restRead⟩ := exists_of_bind_eq_ok read
      obtain ⟨others, othersRead, same⟩ := exists_of_bind_eq_ok restRead
      cases same
      obtain ⟨normal, shallow⟩ := fits_toJson item value itemRead
      obtain ⟨normalOthers, shallowOthers⟩ := fits_itemsToJson rest others othersRead
      refine ⟨⟨normal, normalOthers⟩, Nat.max_le.2 ⟨?_, ?_⟩⟩
      · exact Nat.le_trans shallow (Nat.le_max_left _ _)
      · exact Nat.le_trans shallowOthers (Nat.le_max_right _ _)

theorem fits_fieldsToJson : (fields : List (String × Document)) → ∀ entries,
    fieldsToJson fields = .ok entries → ∀ entry ∈ entries, Fits (depthFields fields) entry.2
  | [] => by
      intro entries read
      cases read
      simp
  | (key, document) :: rest => by
      intro entries read
      obtain ⟨value, documentRead, restRead⟩ := exists_of_bind_eq_ok read
      obtain ⟨others, othersRead, same⟩ := exists_of_bind_eq_ok restRead
      cases same
      intro entry member
      rcases List.mem_cons.1 member with rfl | later
      · obtain ⟨normal, shallow⟩ := fits_toJson document value documentRead
        exact ⟨normal, Nat.le_trans shallow (Nat.le_max_left _ _)⟩
      · obtain ⟨normal, shallow⟩ := fits_fieldsToJson rest others othersRead entry later
        exact ⟨normal, Nat.le_trans shallow (Nat.le_max_right _ _)⟩

end

/-- Only null is read as null. -/
theorem eq_null_of_toJson (read : document.toJson = .ok .null) : document = .null := by
  cases document with
  | null => rfl
  | array items breach =>
      obtain ⟨values, -, rest⟩ := exists_of_bind_eq_ok read
      cases breach with
      | none => cases rest
      | some breach => contradiction
  | object fields breach =>
      obtain ⟨entries, -, rest⟩ := exists_of_bind_eq_ok read
      cases breach with
      | none => cases rest
      | some breach => contradiction
  | boolean _ | number _ | string _ | unreadable _ _ | severed _ => cases read

/-! ## Documents of texts -/

section Parser

open Lexeme

theorem depth_flaw (fault : Fault) : (flaw fault).1.depth = 0 := by
  simp [flaw, depth]

theorem depth_ofScan {α : Type} {build : α → Document} (flat : ∀ value, (build value).depth = 0)
    (scan : Scan α) : (ofScan build scan).1.depth = 0 := by
  unfold ofScan
  split
  · exact flat _
  · simp [depth]

theorem depth_ofNumeral (scan : Scan Number) : (ofNumeral scan).1.depth = 0 := by
  unfold ofNumeral
  split
  · simp [depth]
  · exact depth_ofScan (fun _ => by simp [depth]) scan

theorem depth_ofLiteral (flat : document.depth = 0) (after : Except Fault (List Char)) :
    (ofLiteral document after).1.depth = 0 := by
  unfold ofLiteral
  split
  · exact flat
  · simp [depth]
  · exact depth_flaw _

/-- What the parser finds inside so many containers is nested no more deeply than is followed. -/
structure Bounded (fuel : Nat) : Prop where
  value : ∀ level characters,
    (parseValue fuel level characters).1.depth ≤ nestingLimit - level
  items : ∀ level first characters,
    depthItems (parseItems fuel level first characters).1 ≤ nestingLimit - (level + 1)
  item : ∀ level characters,
    depthItems (parseItem fuel level characters).1 ≤ nestingLimit - (level + 1)
  fields : ∀ level first characters,
    depthFields (parseFields fuel level first characters).1 ≤ nestingLimit - (level + 1)
  field : ∀ level characters,
    depthFields (parseField fuel level characters).1 ≤ nestingLimit - (level + 1)

namespace Bounded

variable {fuel : Nat}

theorem zero : Bounded 0 := by
  constructor <;> intros <;>
    simp [parseValue, parseItems, parseItem, parseFields, parseField, flaw, depth, depthItems,
      depthFields]

theorem contain_le {level : Nat} {container : Document} (after : Except Fault (List Char))
    (within : container.depth ≤ nestingLimit - (level + 1) + 1) :
    (contain level container after).depth ≤ nestingLimit - level := by
  unfold contain
  split
  · omega
  · simp [depth]

theorem of_flat {room : Nat} (flat : document.depth = 0) : document.depth ≤ room := by
  rw [flat]
  exact Nat.zero_le room

theorem value_succ (bounded : Bounded fuel) (level : Nat) (characters : List Char) :
    (parseValue (fuel + 1) level characters).1.depth ≤ nestingLimit - level := by
  have flatNull : depth .null = 0 := by simp [depth]
  have flatBoolean : ∀ value, depth (.boolean value) = 0 := by simp [depth]
  have flatString : ∀ text, depth (.string text) = 0 := by simp [depth]
  rw [parseValue]
  split
  · exact of_flat (depth_flaw _)
  · exact of_flat (depth_ofScan flatString _)
  · exact contain_le _ (Nat.succ_le_succ (bounded.items level true _))
  · exact contain_le _ (Nat.succ_le_succ (bounded.fields level true _))
  · exact of_flat (depth_ofLiteral flatNull _)
  · exact of_flat (depth_ofLiteral (flatBoolean true) _)
  · exact of_flat (depth_ofLiteral (flatBoolean false) _)
  · split
    · exact of_flat (depth_ofNumeral _)
    · exact of_flat (depth_flaw _)

theorem items_succ (bounded : Bounded fuel) (level : Nat) (first : Bool) (characters : List Char) :
    depthItems (parseItems (fuel + 1) level first characters).1 ≤ nestingLimit - (level + 1) := by
  rw [parseItems]
  split
  · simp [depthItems]
  · simp [depthItems]
  · split
    · exact bounded.item level _
    · split
      · simp [depthItems]
      · simp [depthItems]
      · exact bounded.item level _
  · split
    · exact bounded.item level _
    · simp [depthItems]

theorem item_succ (bounded : Bounded fuel) (level : Nat) (characters : List Char) :
    depthItems (parseItem (fuel + 1) level characters).1 ≤ nestingLimit - (level + 1) := by
  have value := bounded.value (level + 1) characters
  rw [parseItem]
  rcases parsed : parseValue fuel (level + 1) characters with ⟨document, after⟩
  rw [parsed] at value
  cases after with
  | error fault => simpa [depthItems] using value
  | ok rest => exact Nat.max_le.2 ⟨value, bounded.items level false rest⟩

theorem fields_succ (bounded : Bounded fuel) (level : Nat) (first : Bool)
    (characters : List Char) :
    depthFields (parseFields (fuel + 1) level first characters).1 ≤
      nestingLimit - (level + 1) := by
  rw [parseFields]
  split
  · simp [depthFields]
  · simp [depthFields]
  · split
    · simp [depthFields]
    · split
      · simp [depthFields]
      · exact bounded.field level _
      · simp [depthFields]
  · split
    · exact bounded.field level _
    · simp [depthFields]
  · simp [depthFields]

theorem field_succ (bounded : Bounded fuel) (level : Nat) (characters : List Char) :
    depthFields (parseField (fuel + 1) level characters).1 ≤ nestingLimit - (level + 1) := by
  rw [parseField]
  simp only
  split
  · simp [depthFields]
  · split
    · refine Nat.max_le.2 ⟨?_, ?_⟩
      · split
        · exact of_flat (depth_flaw _)
        · exact bounded.value (level + 1) _
        · exact of_flat (depth_flaw _)
      · split
        · simp [depthFields]
        · exact bounded.fields level false _
    · simp [depthFields]

/-- The bound holds for as many steps as the parser may take. -/
theorem all (fuel : Nat) : Bounded fuel := by
  induction fuel with
  | zero => exact zero
  | succ fuel ih =>
      exact ⟨ih.value_succ, ih.items_succ, ih.item_succ, ih.fields_succ, ih.field_succ⟩

end Bounded

/-- The document of a text is nested no more deeply than a reader follows. -/
theorem depth_ofText_le (text : String) : (ofText text).1.depth ≤ nestingLimit := by
  have within := (Bounded.all (4 * text.toList.length + 4)).value 0 text.toList
  unfold ofText
  simp only
  split <;> exact within

end Parser

end Document

end PlanRunner
