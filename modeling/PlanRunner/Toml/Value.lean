/-!
# TOML values

What a key of a TOML text can stand for. Points in time are only known to be there.
-/

namespace PlanRunner.Toml

/-- A TOML value. -/
inductive Value where
  | string (value : String)
  | integer (value : Int)
  | float (value : Float)
  | boolean (value : Bool)
  | time
  | array (items : List Value)
  | table (entries : List (String × Value))

instance : Inhabited Value := ⟨.boolean false⟩

/-- The entries of a table. -/
abbrev Table := List (String × Value)

namespace Value

mutual

/-- Whether every integer in a value fits into 63 bits and a sign, as TOML asks for. -/
def isStandard : Value → Bool
  | .integer value => -0x8000000000000000 ≤ value && value < 0x8000000000000000
  | .array items => areStandard items
  | .table entries => entriesAreStandard entries
  | _ => true

/-- Whether every integer in a list of values fits. -/
def areStandard : List Value → Bool
  | [] => true
  | item :: rest => isStandard item && areStandard rest

/-- Whether every integer in the values of entries fits. -/
def entriesAreStandard : List (String × Value) → Bool
  | [] => true
  | (_, value) :: rest => isStandard value && entriesAreStandard rest

end

end Value

end PlanRunner.Toml
