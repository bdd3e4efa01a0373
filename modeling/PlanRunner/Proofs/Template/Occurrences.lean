import Mathlib.Data.List.Basic
import PlanRunner.Proofs.Template.Grammar
import PlanRunner.Template.Resolution

/-!
# Where references stand

A place in a value leads through items and fields to a text, and there to a number of characters
before. Places are in order as the value is written: items by their positions, fields by their keys,
and in a text from left to right. The references of a value are listed in this order with their
places, each occurrence once and nothing else.
-/

namespace PlanRunner

open Reference

/-- A place in a value. -/
inductive Place where
  | offset (size : Nat)
  | item (position : Nat) (inner : Place)
  | field (key : String) (inner : Place)
  deriving DecidableEq, Repr

/-- One place comes before another one. -/
inductive Place.Before : Place → Place → Prop where
  | offset {size other : Nat} (less : size < other) : Before (.offset size) (.offset other)
  | items {position other : Nat} {inner second : Place} (less : position < other) :
      Before (.item position inner) (.item other second)
  | item {position : Nat} {inner second : Place} (within : Before inner second) :
      Before (.item position inner) (.item position second)
  | fields {key other : String} {inner second : Place} (less : key < other) :
      Before (.field key inner) (.field other second)
  | field {key : String} {inner second : Place} (within : Before inner second) :
      Before (.field key inner) (.field key second)

/-- A reference is written at a place in a value. -/
inductive Occurs : Json → Place → Reference → Prop where
  | text {text : String} {before source after : List Char} {target : Reference}
      (written : Written source target) (whole : text.toList = before ++ (source ++ after)) :
      Occurs (.string text) (.offset before.length) target
  | item {items : List Json} {item : Json} {position : Nat} {inner : Place} {target : Reference}
      (found : items[position]? = some item) (within : Occurs item inner target) :
      Occurs (.array items) (.item position inner) target
  | field {fields : List (String × Json)} {key : String} {value : Json} {inner : Place}
      {target : Reference} (member : (key, value) ∈ fields) (within : Occurs value inner target) :
      Occurs (.object fields) (.field key inner) target

theorem Occurs.named {value : Json} {place : Place} {target : Reference}
    (occurs : Occurs value place target) : target.Named := by
  induction occurs with
  | text written whole => exact written.named
  | item found within ih => exact ih
  | field member within ih => exact ih

/-- A reference and where it stands. -/
structure Occurrence where
  place : Place
  target : Reference
  deriving DecidableEq, Repr

/-- An occurrence in a part of a value, seen from the whole value. -/
def Occurrence.under (wrap : Place → Place) (occurrence : Occurrence) : Occurrence :=
  { occurrence with place := wrap occurrence.place }

namespace Template

/-- The occurrences among the pieces of a text, the first of which has some characters before it. -/
def occurrencesInPieces (size : Nat) : List Piece → List Occurrence
  | [] => []
  | .literal _ :: rest => occurrencesInPieces (size + 1) rest
  | .reference source target :: rest =>
      ⟨.offset size, target⟩ :: occurrencesInPieces (size + source.length) rest

mutual

/-- The occurrences of references in all texts of a value. -/
def occurrencesIn : Json → List Occurrence
  | .string text => occurrencesInPieces 0 (Piece.split text.toList)
  | .array items => occurrencesInItems 0 items
  | .object fields => occurrencesInFields fields
  | _ => []

/-- The occurrences in a list of values, the first of which has a position. -/
def occurrencesInItems (position : Nat) : List Json → List Occurrence
  | [] => []
  | item :: rest =>
      (occurrencesIn item).map (.under (.item position)) ++ occurrencesInItems (position + 1) rest

/-- The occurrences in a list of fields. -/
def occurrencesInFields : List (String × Json) → List Occurrence
  | [] => []
  | (key, value) :: rest =>
      (occurrencesIn value).map (.under (.field key)) ++ occurrencesInFields rest

end

variable {pieces : List Piece} {size : Nat} {lookup : Lookup} {text : String} {place : Place}
  {target : Reference}

/-! ## Every occurrence is listed -/

/-- Among pieces an occurrence is a piece, with the characters of the pieces before it. -/
theorem mem_occurrencesInPieces_iff : ⟨place, target⟩ ∈ occurrencesInPieces size pieces ↔
    ∃ earlier source later, pieces = earlier ++ .reference source target :: later ∧
      place = .offset (size + (earlier.flatMap Piece.source).length) := by
  induction pieces generalizing size with
  | nil => simp [occurrencesInPieces]
  | cons piece rest ih =>
      simp only [List.cons_eq_append_iff]
      cases piece with
      | literal character =>
          rw [occurrencesInPieces, ih]
          constructor
          · rintro ⟨earlier, source, later, rfl, rfl⟩
            refine ⟨.literal character :: earlier, source, later, .inr ⟨earlier, rfl, rfl⟩, ?_⟩
            simp [Piece.source, Nat.add_assoc, Nat.add_comm 1]
          · rintro ⟨_, source, later, ⟨-, different⟩ | ⟨earlier, rfl, rfl⟩, rfl⟩
            · cases different
            · refine ⟨earlier, source, later, rfl, ?_⟩
              simp [Piece.source, Nat.add_assoc, Nat.add_comm 1]
      | reference first other =>
          rw [occurrencesInPieces, List.mem_cons, ih]
          constructor
          · rintro (isFirst | ⟨earlier, source, later, rfl, rfl⟩)
            · cases isFirst
              exact ⟨[], first, rest, .inl ⟨rfl, rfl⟩, rfl⟩
            · refine ⟨.reference first other :: earlier, source, later,
                .inr ⟨earlier, rfl, rfl⟩, ?_⟩
              simp [Piece.source, Nat.add_assoc]
          · rintro ⟨_, source, later, ⟨rfl, same⟩ | ⟨earlier, rfl, rfl⟩, rfl⟩
            · cases same
              exact .inl rfl
            · refine .inr ⟨earlier, source, later, rfl, ?_⟩
              simp [Piece.source, Nat.add_assoc]

/-- In a text the occurrences are the places at which the grammar is met. -/
theorem mem_occurrencesIn_text_iff :
    ⟨place, target⟩ ∈ occurrencesIn (.string text) ↔ Occurs (.string text) place target := by
  rw [occurrencesIn, mem_occurrencesInPieces_iff]
  constructor
  · rintro ⟨earlier, source, later, pieces, rfl⟩
    have written : Written source target :=
      Piece.written_of_mem_split (pieces ▸ List.mem_append_right _ List.mem_cons_self)
    have whole : text.toList =
        earlier.flatMap Piece.source ++ (source ++ later.flatMap Piece.source) := by
      rw [← Piece.flatMap_source_split text.toList, pieces, List.flatMap_append, List.flatMap_cons]
      rfl
    rw [Nat.zero_add]
    exact .text written whole
  · intro occurs
    cases occurs with
    | text written whole =>
        rename_i before source after
        refine ⟨_, source, _, whole ▸ Piece.split_around written before after, ?_⟩
        rw [Piece.flatMap_source_split, Nat.zero_add]

theorem mem_map_under_iff {wrap : Place → Place} {occurrences : List Occurrence} :
    ⟨place, target⟩ ∈ occurrences.map (Occurrence.under wrap) ↔
      ∃ inner, place = wrap inner ∧ ⟨inner, target⟩ ∈ occurrences := by
  rw [List.mem_map]
  constructor
  · rintro ⟨occurrence, member, same⟩
    cases same
    exact ⟨occurrence.place, rfl, member⟩
  · rintro ⟨inner, rfl, member⟩
    exact ⟨_, member, rfl⟩

mutual

/-- The listed occurrences are just those that there are. -/
theorem mem_occurrencesIn_iff (value : Json) {place : Place} {target : Reference} :
    ⟨place, target⟩ ∈ occurrencesIn value ↔ Occurs value place target := by
  cases value with
  | null | boolean _ | number _ =>
      simp only [occurrencesIn, List.not_mem_nil, false_iff]
      rintro ⟨⟩
  | string text => exact mem_occurrencesIn_text_iff
  | array items =>
      rw [occurrencesIn, mem_occurrencesInItems_iff items]
      constructor
      · rintro ⟨position, item, inner, found, rfl, within⟩
        rw [Nat.zero_add]
        exact .item found within
      · intro occurs
        cases occurs with
        | item found within => exact ⟨_, _, _, found, by rw [Nat.zero_add], within⟩
  | object fields =>
      rw [occurrencesIn, mem_occurrencesInFields_iff fields]
      constructor
      · rintro ⟨key, value, inner, member, rfl, within⟩
        exact .field member within
      · intro occurs
        cases occurs with
        | field member within => exact ⟨_, _, _, member, rfl, within⟩

theorem mem_occurrencesInItems_iff (items : List Json) {position : Nat} {place : Place}
    {target : Reference} : ⟨place, target⟩ ∈ occurrencesInItems position items ↔
      ∃ distance item inner, items[distance]? = some item ∧
        place = .item (position + distance) inner ∧ Occurs item inner target := by
  cases items with
  | nil => simp [occurrencesInItems]
  | cons item rest =>
      rw [occurrencesInItems, List.mem_append, mem_map_under_iff,
        mem_occurrencesInItems_iff rest]
      constructor
      · rintro (⟨inner, rfl, member⟩ | ⟨distance, other, inner, found, rfl, within⟩)
        · exact ⟨0, item, inner, rfl, rfl, (mem_occurrencesIn_iff item).1 member⟩
        · exact ⟨distance + 1, other, inner, found, by rw [Nat.add_assoc, Nat.add_comm 1], within⟩
      · rintro ⟨distance, other, inner, found, rfl, within⟩
        cases distance with
        | zero =>
            cases found
            exact .inl ⟨inner, rfl, (mem_occurrencesIn_iff item).2 within⟩
        | succ distance =>
            exact .inr ⟨distance, other, inner, found,
              by rw [Nat.add_assoc, Nat.add_comm 1], within⟩

theorem mem_occurrencesInFields_iff (fields : List (String × Json)) {place : Place}
    {target : Reference} : ⟨place, target⟩ ∈ occurrencesInFields fields ↔
      ∃ key value inner, (key, value) ∈ fields ∧ place = .field key inner ∧
        Occurs value inner target := by
  cases fields with
  | nil => simp [occurrencesInFields]
  | cons field rest =>
      rw [occurrencesInFields, List.mem_append, mem_map_under_iff,
        mem_occurrencesInFields_iff rest]
      constructor
      · rintro (⟨inner, rfl, member⟩ | ⟨key, value, inner, member, rfl, within⟩)
        · exact ⟨field.1, field.2, inner, List.mem_cons_self, rfl,
            (mem_occurrencesIn_iff field.2).1 member⟩
        · exact ⟨key, value, inner, List.mem_cons_of_mem _ member, rfl, within⟩
      · rintro ⟨key, value, inner, member, rfl, within⟩
        rcases List.mem_cons.1 member with rfl | later
        · exact .inl ⟨inner, rfl, (mem_occurrencesIn_iff value).2 within⟩
        · exact .inr ⟨key, value, inner, later, rfl, within⟩

end

/-! ## Occurrences are listed in order -/

/-- Each occurrence in a list comes before those that follow it. -/
def InOrder (occurrences : List Occurrence) : Prop :=
  occurrences.Pairwise fun first second => first.place.Before second.place

theorem InOrder.map_under {wrap : Place → Place} {occurrences : List Occurrence}
    (ordered : InOrder occurrences)
    (keeps : ∀ {first second : Place}, first.Before second → (wrap first).Before (wrap second)) :
    InOrder (occurrences.map (Occurrence.under wrap)) := by
  rw [InOrder, List.pairwise_map]
  exact ordered.imp fun before => keeps before

/-- No reference is written with no characters at all, so that offsets strictly increase. -/
theorem inOrder_pieces
    (filled : ∀ source target, .reference source target ∈ pieces → 0 < source.length) :
    InOrder (occurrencesInPieces size pieces) := by
  induction pieces generalizing size with
  | nil => exact .nil
  | cons piece rest ih =>
      have ordered {size : Nat} : InOrder (occurrencesInPieces size rest) :=
        ih fun source target member => filled source target (List.mem_cons_of_mem _ member)
      cases piece with
      | literal character => exact ordered
      | reference source target =>
          refine List.pairwise_cons.2 ⟨?_, ordered⟩
          rintro ⟨place, other⟩ member
          obtain ⟨earlier, -, -, -, rfl⟩ := mem_occurrencesInPieces_iff.1 member
          have positive := filled source target List.mem_cons_self
          exact .offset (by omega)

mutual

/-- Where the fields of objects stand in key order, so do the occurrences in them. -/
theorem inOrder_occurrencesIn (value : Json) (normal : value.Normal) :
    InOrder (occurrencesIn value) := by
  cases value with
  | null | boolean _ | number _ => exact .nil
  | string text =>
      exact inOrder_pieces fun source target member =>
        (Piece.written_of_mem_split member).length_pos
  | array items => exact inOrder_items items normal
  | object fields => exact inOrder_fields fields normal.1 normal.2

theorem inOrder_items (items : List Json) (normal : Json.NormalItems items) {position : Nat} :
    InOrder (occurrencesInItems position items) := by
  cases items with
  | nil => exact .nil
  | cons item rest =>
      refine List.pairwise_append.2 ⟨?_, inOrder_items rest normal.2, ?_⟩
      · exact (inOrder_occurrencesIn item normal.1).map_under .item
      · rintro ⟨place, target⟩ member ⟨later, other⟩ laterMember
        obtain ⟨inner, rfl, -⟩ := mem_map_under_iff.1 member
        obtain ⟨distance, -, second, -, rfl, -⟩ :=
          (mem_occurrencesInItems_iff rest).1 laterMember
        exact .items (by omega)

theorem inOrder_fields (fields : List (String × Json)) (sorted : Keyed.Sorted fields)
    (normal : Json.NormalFields fields) : InOrder (occurrencesInFields fields) := by
  cases fields with
  | nil => exact .nil
  | cons field rest =>
      obtain ⟨first, sorted⟩ := List.pairwise_cons.1 sorted
      refine List.pairwise_append.2 ⟨?_, inOrder_fields rest sorted normal.2, ?_⟩
      · exact (inOrder_occurrencesIn field.2 normal.1).map_under .field
      · rintro ⟨place, target⟩ member ⟨later, other⟩ laterMember
        obtain ⟨inner, rfl, -⟩ := mem_map_under_iff.1 member
        obtain ⟨key, value, second, inRest, rfl, -⟩ :=
          (mem_occurrencesInFields_iff rest).1 laterMember
        exact .fields (first key (List.mem_map_of_mem inRest))

end

/-! ## Occurrences without a value -/

/-- The occurrences of references that have no value. -/
def unresolved (lookup : Lookup) (occurrences : List Occurrence) : List Occurrence :=
  occurrences.filter fun occurrence => (lookup occurrence.target).isNone

/-- The labels of occurrences. -/
def labels (occurrences : List Occurrence) : List String :=
  occurrences.map fun occurrence => occurrence.target.label

theorem unresolved_append (first second : List Occurrence) :
    unresolved lookup (first ++ second) = unresolved lookup first ++ unresolved lookup second :=
  List.filter_append ..

theorem labels_append (first second : List Occurrence) :
    labels (first ++ second) = labels first ++ labels second :=
  List.map_append

theorem labels_unresolved_map_under (wrap : Place → Place) (occurrences : List Occurrence) :
    labels (unresolved lookup (occurrences.map (Occurrence.under wrap))) =
      labels (unresolved lookup occurrences) := by
  rw [labels, unresolved, List.filter_map, List.map_map]
  rfl

theorem missing_pieces :
    pieces.filterMap (·.missing? lookup) =
      labels (unresolved lookup (occurrencesInPieces size pieces)) := by
  induction pieces generalizing size with
  | nil => rfl
  | cons piece rest ih =>
      cases piece with
      | literal character => exact ih
      | reference source target =>
          have later := @ih (size + source.length)
          rw [labels, unresolved] at later ⊢
          cases found : lookup target with
          | none =>
              have missing :
                  (Piece.reference source target).missing? lookup = some target.label := by
                rw [Piece.missing?, found]
                rfl
              simp [occurrencesInPieces, missing, found, later]
          | some value =>
              have present : (Piece.reference source target).missing? lookup = none := by
                rw [Piece.missing?, found]
                rfl
              simp [occurrencesInPieces, present, found, later]

mutual

/-- What is missing in a value are the labels of the occurrences without a value. -/
theorem missingIn_eq (value : Json) :
    missingIn lookup value = labels (unresolved lookup (occurrencesIn value)) := by
  cases value with
  | null | boolean _ | number _ => rfl
  | string text => exact missing_pieces
  | array items => exact missingInItems_eq items
  | object fields => exact missingInFields_eq fields

theorem missingInItems_eq (items : List Json) {position : Nat} :
    missingInItems lookup items =
      labels (unresolved lookup (occurrencesInItems position items)) := by
  cases items with
  | nil => rfl
  | cons item rest =>
      rw [missingInItems, occurrencesInItems, unresolved_append, labels_append,
        labels_unresolved_map_under, missingIn_eq item, missingInItems_eq rest]

theorem missingInFields_eq (fields : List (String × Json)) :
    missingInFields lookup fields = labels (unresolved lookup (occurrencesInFields fields)) := by
  cases fields with
  | nil => rfl
  | cons field rest =>
      rw [missingInFields, occurrencesInFields, unresolved_append, labels_append,
        labels_unresolved_map_under, missingIn_eq field.2, missingInFields_eq rest]

end

end Template

end PlanRunner
