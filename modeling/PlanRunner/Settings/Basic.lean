/-!
# Settings

The settings of the engine, what makes them valid, and the limits that follow from them.
-/

namespace PlanRunner

/-- The settings of the engine. -/
structure Settings where
  /-- The file that the settings come from, if they come from one. -/
  path : Option String := none
  /-- Ready steps run in batches; otherwise they run one at a time, in plan order. -/
  enableRewoo : Bool := true
  /-- How often a step is retried, unless it says so itself. -/
  maxRetries : UInt32 := 0
  /-- How often a plan may be sent back for replanning. -/
  maxReplansPerPlan : UInt32 := 1
  /-- How many steps a batch may start; zero stands for any number. -/
  maxParallelSteps : UInt64 := 0
  /-- How many seconds a call may take; zero stands for any number. -/
  stepTimeoutSecs : UInt64 := 0
  /-- The delay before the first retry in milliseconds. It doubles with every further retry. -/
  retryBackoffMs : UInt64 := 0
  logLevel : String := "info"
  deriving DecidableEq, Repr, Inhabited

namespace Settings

/-- The levels of the log, from the most to the least talkative. -/
def logLevels : List String :=
  ["trace", "debug", "info", "warn", "error"]

/-- The most replans that may be allowed. -/
def maxReplansCeiling : UInt32 := 100

/-- What makes settings invalid. -/
inductive Flaw where
  | logLevel (level : String)
  | maxReplans (count : UInt32)
  deriving DecidableEq, Repr

/-- The text for what makes settings invalid. -/
def Flaw.message : Flaw → String
  | .logLevel level =>
      "log_level must be one of [" ++ String.intercalate ", " logLevels ++ "], got '" ++ level ++
        "'"
  | .maxReplans count =>
      "max_replans_per_plan must be <= " ++ toString maxReplansCeiling ++ ", got " ++
        toString count

/-- What makes settings invalid, if anything does. -/
def validate (settings : Settings) : Except Flaw Unit :=
  if settings.logLevel ∉ logLevels then .error (.logLevel settings.logLevel)
  else if maxReplansCeiling < settings.maxReplansPerPlan then
    .error (.maxReplans settings.maxReplansPerPlan)
  else .ok ()

/-- How many seconds a call may take, if there is a limit. -/
def stepTimeout? (settings : Settings) : Option UInt64 :=
  if settings.stepTimeoutSecs = 0 then none else some settings.stepTimeoutSecs

/-- The longest delay before a retry in milliseconds. -/
def backoffCeiling : UInt64 := 30000

/-- The product of two words, or the greatest word if the product is no word. -/
def saturatingMul (first second : UInt64) : UInt64 :=
  if first.toNat * second.toNat < 0x10000000000000000 then first * second
  else UInt64.ofNat 0xFFFFFFFFFFFFFFFF

/-- The delay in milliseconds before the retry that follows so many others. -/
def retryBackoff (settings : Settings) (retriesUsed : UInt32) : UInt64 :=
  if settings.retryBackoffMs = 0 then 0
  else
    let factor : UInt64 := 1 <<< (min retriesUsed 20).toUInt64
    min (saturatingMul settings.retryBackoffMs factor) backoffCeiling

/-- How many steps a batch may start, if there is a limit. -/
def batchCap? (settings : Settings) : Option UInt64 :=
  if !settings.enableRewoo then some 1
  else if settings.maxParallelSteps = 0 then none
  else some settings.maxParallelSteps

/-- How many steps a batch may start; the greatest word stands for any number. -/
def batchLimit (settings : Settings) : UInt64 :=
  settings.batchCap?.getD (UInt64.ofNat 0xFFFFFFFFFFFFFFFF)

/-- A cap is one step where steps run one at a time, and otherwise the limit that is set. -/
theorem batchCap?_eq_some_iff {settings : Settings} {cap : UInt64} :
    settings.batchCap? = some cap ↔
      if settings.enableRewoo then settings.maxParallelSteps = cap ∧ cap ≠ 0 else cap = 1 := by
  unfold batchCap?
  cases settings.enableRewoo with
  | false => simp [eq_comm]
  | true => grind

/-- The limit is one step, the limit that is set, or the greatest word if none is set. -/
theorem batchLimit_eq (settings : Settings) :
    settings.batchLimit =
      if settings.enableRewoo then
        if settings.maxParallelSteps = 0 then UInt64.ofNat 0xFFFFFFFFFFFFFFFF
        else settings.maxParallelSteps
      else 1 := by
  unfold batchLimit batchCap?
  cases settings.enableRewoo with
  | false => simp
  | true =>
      by_cases unlimited : settings.maxParallelSteps = 0
      · simp [unlimited]
      · simp [unlimited]

end Settings

end PlanRunner
