import PlanRunner.Settings.Basic
import PlanRunner.Text.Blank
import PlanRunner.Text.Lowercase

/-!
# Overrides

Variables of the environment take the place of settings. A variable whose value makes no sense for
its setting is ignored.
-/

namespace PlanRunner

/-- The variables of an environment. -/
abbrev Variables := String → Option String

namespace Settings

/-- A truth value in one of several spellings. -/
def parseFlag (raw : String) : Option Bool :=
  match Text.asciiLowercase (Text.trim raw) with
  | "1" | "true" | "yes" | "on" => some true
  | "0" | "false" | "no" | "off" => some false
  | _ => none

/-- The number that decimal digits denote. -/
def digitsValue (digits : List Char) : Nat :=
  digits.foldl (fun value digit => value * 10 + (digit.toNat - '0'.toNat)) 0

/-- A number below a bound, in decimal digits after an optional plus. -/
def parseNatural (bound : Nat) (raw : String) : Option Nat :=
  let digits :=
    match Text.trimmed raw.toList with
    | '+' :: rest => rest
    | rest => rest
  if !digits.isEmpty && digits.all Char.isDigit && digitsValue digits < bound then
    some (digitsValue digits)
  else none

/-- A number that fits into a word of 32 bits. -/
def parseWord32 (raw : String) : Option UInt32 :=
  (parseNatural 0x100000000 raw).map UInt32.ofNat

/-- A number that fits into a word of 64 bits. -/
def parseWord64 (raw : String) : Option UInt64 :=
  (parseNatural 0x10000000000000000 raw).map UInt64.ofNat

/-- A level of the log in small letters, unless it is blank. -/
def parseLevel (raw : String) : Option String :=
  if Text.isBlankText raw then none else some (Text.asciiLowercase (Text.trim raw))

/-- Settings with those replaced that environment override. -/
def override (settings : Settings) (environment : Variables) : Settings :=
  { settings with
    enableRewoo := ((environment "REWOO_ENABLE_REWOO").bind parseFlag).getD settings.enableRewoo
    maxRetries := ((environment "REWOO_MAX_RETRIES").bind parseWord32).getD settings.maxRetries
    maxReplansPerPlan :=
      ((environment "REWOO_MAX_REPLANS").bind parseWord32).getD settings.maxReplansPerPlan
    maxParallelSteps :=
      ((environment "REWOO_MAX_PARALLEL").bind parseWord64).getD settings.maxParallelSteps
    stepTimeoutSecs :=
      ((environment "REWOO_STEP_TIMEOUT_SECS").bind parseWord64).getD settings.stepTimeoutSecs
    logLevel := ((environment "REWOO_LOG_LEVEL").bind parseLevel).getD settings.logLevel }

end Settings

end PlanRunner
