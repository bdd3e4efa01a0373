import PlanRunner.Settings.Basic
import PlanRunner.Wire.Record
import PlanRunner.Wire.Writer

/-!
# Written settings

How settings are read from documents and written as JSON. The path of their file is neither read nor
written.
-/

namespace PlanRunner.Settings

def record : Record Settings where
  name := "struct EngineConfig"
  draft := {}
  fields :=
    [ .of "enable_rewoo" .defaulted Reader.flag fun settings enableRewoo =>
        { settings with enableRewoo },
      .of "max_retries" .defaulted Reader.word32 fun settings maxRetries =>
        { settings with maxRetries },
      .of "max_replans_per_plan" .defaulted Reader.word32 fun settings maxReplansPerPlan =>
        { settings with maxReplansPerPlan },
      .of "max_parallel_steps" .defaulted Reader.size fun settings maxParallelSteps =>
        { settings with maxParallelSteps },
      .of "step_timeout_secs" .defaulted Reader.word64 fun settings stepTimeoutSecs =>
        { settings with stepTimeoutSecs },
      .of "retry_backoff_ms" .defaulted Reader.word64 fun settings retryBackoffMs =>
        { settings with retryBackoffMs },
      .of "log_level" .defaulted Reader.text fun settings logLevel =>
        { settings with logLevel } ]

def read : Reader Settings :=
  record.read

def toJson (settings : Settings) : Json :=
  .object
    [ ("enable_rewoo", .boolean settings.enableRewoo),
      ("max_retries", Writer.word32 settings.maxRetries),
      ("max_replans_per_plan", Writer.word32 settings.maxReplansPerPlan),
      ("max_parallel_steps", Writer.word64 settings.maxParallelSteps),
      ("step_timeout_secs", Writer.word64 settings.stepTimeoutSecs),
      ("retry_backoff_ms", Writer.word64 settings.retryBackoffMs),
      ("log_level", .string settings.logLevel) ]

end PlanRunner.Settings
