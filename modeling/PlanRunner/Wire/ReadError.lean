import PlanRunner.Json.Document
import PlanRunner.Text.Quoted

/-!
# Reading errors

What can be wrong with a document that should hold a value of some type, and the texts that say so.
-/

namespace PlanRunner

/-- What a reader found in place of what it expected. -/
inductive Found where
  | null
  | boolean (value : Bool)
  | integer (value : Int)
  | float (text : String)
  | string (value : String)
  | sequence
  | map
  /-- An integer beyond 64 bits, described in words. -/
  | other (text : String)
  deriving DecidableEq, Repr

/-- What a reader says that it found. -/
def Found.describe : Found → String
  | .null => "null"
  | .boolean value => "boolean `" ++ (if value then "true" else "false") ++ "`"
  | .integer value => "integer `" ++ toString value ++ "`"
  | .float text => "floating point `" ++ text ++ "`"
  | .string value => "string " ++ Text.quoted value
  | .sequence => "sequence"
  | .map => "map"
  | .other text => text

/-- What a number is called when it is not what was expected. -/
def Found.ofNumber : Number → Found
  | .integer value _ => .integer value
  | number@(.float _ _) => .float number.render

/-- What can be wrong with the text of a point in time. -/
inductive TimeError where
  | outOfRange
  | impossible
  | invalid
  | tooShort
  | tooLong
  deriving DecidableEq, Repr

/-- The text for a wrong point in time. -/
def TimeError.message : TimeError → String
  | .outOfRange => "input is out of range"
  | .impossible => "no possible date and time matching input"
  | .invalid => "input contains invalid characters"
  | .tooShort => "premature end of input"
  | .tooLong => "trailing input"

/-- Why a document holds no value of the type that was asked for. -/
inductive ReadError where
  | fault (fault : Fault)
  | missingField (name : String)
  | duplicateField (name : String)
  | unknownVariant (name : String) (options : List String)
  | invalidType (found : Found) (expected : String)
  | invalidValue (found : Found) (expected : String)
  | invalidLength (length : Nat) (expected : String)
  | invalidTime (error : TimeError)
  | overflow (what : String)
  deriving DecidableEq, Repr

namespace ReadError

/-- The variants of a choice as they are listed in an error. -/
def optionsText (options : List String) : String :=
  match options.map fun option => "`" ++ option ++ "`" with
  | [] => "there are no variants"
  | [only] => "expected " ++ only
  | [first, second] => "expected " ++ first ++ " or " ++ second
  | all => "expected one of " ++ String.intercalate ", " all

/-- The text of an error. The two flaws of a text have none. -/
def message : ReadError → String
  | .fault _ => ""
  | .missingField name => "missing field `" ++ name ++ "`"
  | .duplicateField name => "duplicate field `" ++ name ++ "`"
  | .unknownVariant name options => "unknown variant `" ++ name ++ "`, " ++ optionsText options
  | .invalidType found expected =>
      "invalid type: " ++ found.describe ++ ", expected " ++ expected
  | .invalidValue found expected =>
      "invalid value: " ++ found.describe ++ ", expected " ++ expected
  | .invalidLength length expected =>
      "invalid length " ++ toString length ++ ", expected " ++ expected
  | .invalidTime error => error.message
  | .overflow what => what ++ " overflowed"

end ReadError

end PlanRunner
