import Mathlib.Data.List.Basic
import PlanRunner.Template.Resolution

/-!
# What a resolution depends on

The resolution of arguments looks at nothing but the values of the references that stand in their
texts: where these agree, the resolutions agree. A resolution that misses nothing stays as it is
when more references get values.
-/

namespace PlanRunner

/-- The reference that a piece is. -/
def Piece.target? : Piece → Option Reference
  | .literal _ => none
  | .reference _ target => some target

namespace Template

/-- The references in a text. -/
def referencesInText (text : String) : List Reference :=
  (Piece.split text.toList).filterMap Piece.target?

mutual

/-- The references in all texts of a value. -/
def referencesIn : Json → List Reference
  | .string text => referencesInText text
  | .array items => referencesInItems items
  | .object fields => referencesInFields fields
  | _ => []

/-- The references in a list of values. -/
def referencesInItems : List Json → List Reference
  | [] => []
  | item :: rest => referencesIn item ++ referencesInItems rest

/-- The references in a list of fields. -/
def referencesInFields : List (String × Json) → List Reference
  | [] => []
  | (_, value) :: rest => referencesIn value ++ referencesInFields rest

end

/-- The identifiers that the references in a value start with. -/
def namesIn (value : Json) : List String :=
  (referencesIn value).map (·.id)

variable {lookup other : Lookup} {text : String} {value : Json} {items : List Json}
  {fields : List (String × Json)}

/-- Two ways to look references up that give the same values in a list. -/
def Agree (lookup other : Lookup) (references : List Reference) : Prop :=
  ∀ reference ∈ references, lookup reference = other reference

theorem agree_append {references more : List Reference} :
    Agree lookup other (references ++ more) ↔
      Agree lookup other references ∧ Agree lookup other more := by
  simp only [Agree, List.mem_append, or_imp, forall_and]

theorem lookup_eq_of_mem_split (agree : Agree lookup other (referencesInText text))
    {source : List Char} {target : Reference}
    (member : .reference source target ∈ Piece.split text.toList) :
    lookup target = other target :=
  agree target (List.mem_filterMap.2 ⟨_, member, rfl⟩)

theorem fillText_congr (agree : Agree lookup other (referencesInText text)) :
    fillText lookup text = fillText other text := by
  have filled : ∀ piece ∈ Piece.split text.toList, piece.filled lookup = piece.filled other := by
    intro piece member
    cases piece with
    | literal character => rfl
    | reference source target =>
        simp only [Piece.filled, lookup_eq_of_mem_split agree member]
  have joined := List.map_congr_left filled
  unfold fillText
  split
  · rename_i source target single
    have same := lookup_eq_of_mem_split agree (single ▸ List.mem_cons_self)
    rw [same]
  · rw [joined]

theorem missingInText_congr (agree : Agree lookup other (referencesInText text)) :
    missingInText lookup text = missingInText other text := by
  refine List.filterMap_congr fun piece member => ?_
  cases piece with
  | literal character => rfl
  | reference source target => simp only [Piece.missing?, lookup_eq_of_mem_split agree member]

mutual

theorem fill_congr (value : Json) (agree : Agree lookup other (referencesIn value)) :
    fill lookup value = fill other value ∧ missingIn lookup value = missingIn other value := by
  cases value with
  | null | boolean value | number value => exact ⟨rfl, rfl⟩
  | string text => exact ⟨fillText_congr agree, missingInText_congr agree⟩
  | array items =>
      obtain ⟨filled, missing⟩ := fillItems_congr items agree
      exact ⟨congrArg Json.array filled, missing⟩
  | object fields =>
      obtain ⟨filled, missing⟩ := fillFields_congr fields agree
      exact ⟨congrArg Json.object filled, missing⟩

theorem fillItems_congr (items : List Json) (agree : Agree lookup other (referencesInItems items)) :
    fillItems lookup items = fillItems other items ∧
      missingInItems lookup items = missingInItems other items := by
  cases items with
  | nil => exact ⟨rfl, rfl⟩
  | cons item rest =>
      obtain ⟨first, later⟩ := agree_append.1 agree
      obtain ⟨filled, missing⟩ := fill_congr item first
      obtain ⟨filledLater, missingLater⟩ := fillItems_congr rest later
      simp only [fillItems, missingInItems, filled, missing, filledLater, missingLater, and_self]

theorem fillFields_congr (fields : List (String × Json))
    (agree : Agree lookup other (referencesInFields fields)) :
    fillFields lookup fields = fillFields other fields ∧
      missingInFields lookup fields = missingInFields other fields := by
  cases fields with
  | nil => exact ⟨rfl, rfl⟩
  | cons field rest =>
      obtain ⟨first, later⟩ := agree_append.1 agree
      obtain ⟨filled, missing⟩ := fill_congr field.2 first
      obtain ⟨filledLater, missingLater⟩ := fillFields_congr rest later
      simp only [fillFields, missingInFields, filled, missing, filledLater, missingLater, and_self]

end

/-- Steps that offer the same to the names in arguments resolve the arguments in the same way. -/
theorem resolve_congr {steps others : List Step} {input : String}
    (same : ∀ name ∈ namesIn value,
      Reference.root? steps input name = Reference.root? others input name) :
    resolve steps input value = resolve others input value := by
  have agree : Agree (Reference.value? steps input) (Reference.value? others input)
      (referencesIn value) := by
    intro reference member
    rw [Reference.value?, Reference.value?, same reference.id (List.mem_map_of_mem member)]
  obtain ⟨filled, missing⟩ := fill_congr value agree
  simp only [resolve, filled, missing]

/-! ## Resolutions that miss nothing -/

/-- Every reference of a list has a value. -/
def Covers (lookup : Lookup) (references : List Reference) : Prop :=
  ∀ reference ∈ references, (lookup reference).isSome = true

theorem covers_append {references more : List Reference} :
    Covers lookup (references ++ more) ↔ Covers lookup references ∧ Covers lookup more := by
  simp only [Covers, List.mem_append, or_imp, forall_and]

theorem missing?_eq_none_iff {piece : Piece} :
    piece.missing? lookup = none ↔
      ∀ target, piece.target? = some target → (lookup target).isSome = true := by
  cases piece with
  | literal character => simp [Piece.missing?, Piece.target?]
  | reference source target =>
      simp [Piece.missing?, Piece.target?, Option.isSome_iff_ne_none]

theorem missingInText_eq_nil_iff :
    missingInText lookup text = [] ↔ Covers lookup (referencesInText text) := by
  simp only [missingInText, List.filterMap_eq_nil_iff, missing?_eq_none_iff, Covers,
    referencesInText, List.mem_filterMap, forall_exists_index, and_imp]
  constructor
  · intro found reference piece member isTarget
    exact found piece member reference isTarget
  · intro covers piece member reference isTarget
    exact covers reference piece member isTarget

mutual

/-- Nothing is missing in a value exactly if each of its references has a value. -/
theorem missingIn_eq_nil_iff (value : Json) :
    missingIn lookup value = [] ↔ Covers lookup (referencesIn value) := by
  cases value with
  | null | boolean value | number value => simp [missingIn, referencesIn, Covers]
  | string text => exact missingInText_eq_nil_iff
  | array items => exact missingInItems_eq_nil_iff items
  | object fields => exact missingInFields_eq_nil_iff fields

theorem missingInItems_eq_nil_iff (items : List Json) :
    missingInItems lookup items = [] ↔ Covers lookup (referencesInItems items) := by
  cases items with
  | nil => simp [missingInItems, referencesInItems, Covers]
  | cons item rest =>
      rw [missingInItems, referencesInItems, List.append_eq_nil_iff, covers_append,
        missingIn_eq_nil_iff item, missingInItems_eq_nil_iff rest]

theorem missingInFields_eq_nil_iff (fields : List (String × Json)) :
    missingInFields lookup fields = [] ↔ Covers lookup (referencesInFields fields) := by
  cases fields with
  | nil => simp [missingInFields, referencesInFields, Covers]
  | cons field rest =>
      rw [missingInFields, referencesInFields, List.append_eq_nil_iff, covers_append,
        missingIn_eq_nil_iff field.2, missingInFields_eq_nil_iff rest]

end

/-- One way to look references up gives all the values that another one gives. -/
def Extends (lookup other : Lookup) : Prop :=
  ∀ reference value, lookup reference = some value → other reference = some value

theorem Covers.agree {references : List Reference} (covers : Covers lookup references)
    (grows : Extends lookup other) : Agree lookup other references := by
  intro reference member
  obtain ⟨value, found⟩ := Option.isSome_iff_exists.1 (covers reference member)
  rw [found, grows reference value found]

/-- Where more references have values, arguments that missed nothing are resolved as before. -/
theorem resolve_of_extends {steps others : List Step} {input : String}
    (complete : (resolve steps input value).missing = [])
    (grows : Extends (Reference.value? steps input) (Reference.value? others input)) :
    resolve others input value = resolve steps input value := by
  have covers : Covers (Reference.value? steps input) (referencesIn value) :=
    (missingIn_eq_nil_iff value).1 (FirstSeen.ofList_eq_nil_iff.1 complete)
  obtain ⟨filled, missing⟩ := fill_congr value (covers.agree grows)
  simp only [resolve, filled, missing]

end Template

end PlanRunner
