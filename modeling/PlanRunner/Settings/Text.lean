import PlanRunner.Settings.Basic
import PlanRunner.Toml.Parser
import PlanRunner.Toml.Printer
import PlanRunner.Wire.ReadError

/-!
# Settings as text

Settings are written as TOML, one line for each, and read back from it. Settings that a text does
not mention keep their defaults, and other keys are passed over.
-/

namespace PlanRunner

namespace Toml

/-- Doubles in errors never have an exponent, and a tie goes to the greater magnitude. -/
def floatLayout : Decimal.Layout := ⟨-400, 400, .up⟩

/-- A double in an error. -/
def floatText (value : Float) : String :=
  if value.isNaN then "NaN"
  else if value.isInf then if value < 0.0 then "-inf" else "inf"
  else floatLayout.write value

/-- What a value is called when it is not what was expected. -/
def Value.found : Value → Found
  | .string value => .string value
  | .integer value => .integer value
  | .float value => .float (floatText value)
  | .boolean value => .boolean value
  | .time => .map
  | .array _ => .sequence
  | .table _ => .map

/-- Reads a truth value. -/
def Value.flag : Value → Except ReadError Bool
  | .boolean value => .ok value
  | other => .error (.invalidType other.found "a boolean")

def Value.text : Value → Except ReadError String
  | .string value => .ok value
  | other => .error (.invalidType other.found "a string")

/-- Reads an integer from zero up to a bound. -/
def Value.natural (bound : Nat) (expected : String) : Value → Except ReadError Nat
  | .integer value =>
      if 0 ≤ value ∧ value < bound then .ok value.toNat
      else .error (.invalidValue (.integer value) expected)
  | other => .error (.invalidType other.found expected)

/-- Reads an integer that fits into a word of 32 bits. -/
def Value.word32 (value : Value) : Except ReadError UInt32 :=
  (value.natural 0x100000000 "u32").map UInt32.ofNat

/-- Reads an integer that fits into a word of 64 bits. -/
def Value.word64 (value : Value) : Except ReadError UInt64 :=
  (value.natural 0x10000000000000000 "u64").map UInt64.ofNat

/-- Reads a count, which fits into a word of 64 bits. -/
def Value.size (value : Value) : Except ReadError UInt64 :=
  (value.natural 0x10000000000000000 "usize").map UInt64.ofNat

end Toml

namespace Settings

/-- Settings with one of them taken from an entry of a table. -/
def takeEntry (settings : Settings) (entry : String × Toml.Value) : Except ReadError Settings :=
  match entry with
  | ("enable_rewoo", value) => return { settings with enableRewoo := ← value.flag }
  | ("max_retries", value) => return { settings with maxRetries := ← value.word32 }
  | ("max_replans_per_plan", value) =>
      return { settings with maxReplansPerPlan := ← value.word32 }
  | ("max_parallel_steps", value) => return { settings with maxParallelSteps := ← value.size }
  | ("step_timeout_secs", value) => return { settings with stepTimeoutSecs := ← value.word64 }
  | ("retry_backoff_ms", value) => return { settings with retryBackoffMs := ← value.word64 }
  | ("log_level", value) => return { settings with logLevel := ← value.text }
  | _ => return settings

/-- The settings of a table, whose entries are read in key order. -/
def ofTable (table : Toml.Table) : Except ReadError Settings :=
  table.foldlM takeEntry {}

/-- What stands in place of the details of a text that is not TOML. -/
def syntaxText : String := "<syntax>"

/--
The settings of a text, or what is wrong with it. Integers beyond the range of TOML are taken where
they fit; where one does not, the text counts as malformed.
-/
def ofText (text : String) : Except String Settings :=
  match Toml.Table.ofText text with
  | none => .error syntaxText
  | some table =>
      match ofTable table with
      | .ok settings => .ok settings
      | .error error =>
          .error (if Toml.Value.entriesAreStandard table then error.message else syntaxText)

/-- A line of the text for settings. -/
def line (key value : String) : String :=
  key ++ " = " ++ value ++ "\n"

def toText (settings : Settings) : String :=
  line "enable_rewoo" (if settings.enableRewoo then "true" else "false") ++
    line "max_retries" (toString settings.maxRetries) ++
    line "max_replans_per_plan" (toString settings.maxReplansPerPlan) ++
    line "max_parallel_steps" (toString settings.maxParallelSteps) ++
    line "step_timeout_secs" (toString settings.stepTimeoutSecs) ++
    line "retry_backoff_ms" (toString settings.retryBackoffMs) ++
    line "log_level" (Toml.writeString settings.logLevel)

end Settings

end PlanRunner
