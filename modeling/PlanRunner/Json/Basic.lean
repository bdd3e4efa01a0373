import PlanRunner.Json.Number
import PlanRunner.Order.Keyed

/-!
# JSON values

A JSON value is a tree. Readers build normal values, in which the fields of every object stand in
strictly increasing key order; writers may build objects with their fields in any order.
-/

namespace PlanRunner

/-- A JSON value. The fields of an object are listed in the order in which they are written. -/
inductive Json where
  | null
  | boolean (value : Bool)
  | number (value : Number)
  | string (value : String)
  | array (items : List Json)
  | object (fields : List (String × Json))

namespace Json

instance : Inhabited Json := ⟨.null⟩

mutual

/-- Equality of values is decided along both trees. -/
def decideEq : (first second : Json) → Decidable (first = second)
  | .null, .null => isTrue rfl
  | .boolean first, .boolean second =>
      decidable_of_iff (first = second) ⟨congrArg _, fun same => by injection same⟩
  | .number first, .number second =>
      decidable_of_iff (first = second) ⟨congrArg _, fun same => by injection same⟩
  | .string first, .string second =>
      decidable_of_iff (first = second) ⟨congrArg _, fun same => by injection same⟩
  | .array first, .array second =>
      match decideEqItems first second with
      | isTrue same => isTrue (congrArg _ same)
      | isFalse different => isFalse fun same => different (by injection same)
  | .object first, .object second =>
      match decideEqFields first second with
      | isTrue same => isTrue (congrArg _ same)
      | isFalse different => isFalse fun same => different (by injection same)
  | .null, .boolean _ | .null, .number _ | .null, .string _ | .null, .array _ | .null, .object _
  | .boolean _, .null | .boolean _, .number _ | .boolean _, .string _ | .boolean _, .array _
  | .boolean _, .object _
  | .number _, .null | .number _, .boolean _ | .number _, .string _ | .number _, .array _
  | .number _, .object _
  | .string _, .null | .string _, .boolean _ | .string _, .number _ | .string _, .array _
  | .string _, .object _
  | .array _, .null | .array _, .boolean _ | .array _, .number _ | .array _, .string _
  | .array _, .object _
  | .object _, .null | .object _, .boolean _ | .object _, .number _ | .object _, .string _
  | .object _, .array _ => isFalse nofun

/-- Equality of lists of values is decided item by item. -/
def decideEqItems : (first second : List Json) → Decidable (first = second)
  | [], [] => isTrue rfl
  | [], _ :: _ => isFalse nofun
  | _ :: _, [] => isFalse nofun
  | first :: rest, second :: tail =>
      match decideEq first second, decideEqItems rest tail with
      | isTrue same, isTrue sameTail => isTrue (by rw [same, sameTail])
      | isFalse different, _ => isFalse fun same => different (by injection same)
      | _, isFalse different => isFalse fun same => different (by injection same)

/-- Equality of lists of fields is decided field by field. -/
def decideEqFields : (first second : List (String × Json)) → Decidable (first = second)
  | [], [] => isTrue rfl
  | [], _ :: _ => isFalse nofun
  | _ :: _, [] => isFalse nofun
  | (key, first) :: rest, (other, second) :: tail =>
      if sameKey : key = other then
        match decideEq first second, decideEqFields rest tail with
        | isTrue same, isTrue sameTail => isTrue (by rw [sameKey, same, sameTail])
        | isFalse different, _ => isFalse fun same => different (by injections)
        | _, isFalse different => isFalse fun same => different (by injection same)
      else isFalse fun same => sameKey (by injections)

end

instance : DecidableEq Json := decideEq

/-- A field of an object, found by its key; of several the first one. -/
def field? (key : String) : Json → Option Json
  | .object fields => fields.lookup key
  | _ => none

mutual

/-- The fields of every object in the value stand in strictly increasing key order. -/
def Normal : Json → Prop
  | .array items => NormalItems items
  | .object fields => Keyed.Sorted fields ∧ NormalFields fields
  | _ => True

/-- Every item of the list is normal. -/
def NormalItems : List Json → Prop
  | [] => True
  | item :: rest => item.Normal ∧ NormalItems rest

/-- The value of every field of the list is normal. -/
def NormalFields : List (String × Json) → Prop
  | [] => True
  | (_, value) :: rest => value.Normal ∧ NormalFields rest

end

mutual

/-- The same value with the fields of every object in key order. -/
def normalize : Json → Json
  | .array items => .array (normalizeItems items)
  | .object fields => .object (Keyed.ofList (normalizeFields fields))
  | other => other

/-- Normalizes every item of a list. -/
def normalizeItems : List Json → List Json
  | [] => []
  | item :: rest => item.normalize :: normalizeItems rest

/-- Normalizes the value of every field of a list. -/
def normalizeFields : List (String × Json) → List (String × Json)
  | [] => []
  | (key, value) :: rest => (key, value.normalize) :: normalizeFields rest

end

end Json

end PlanRunner
