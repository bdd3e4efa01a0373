import Mathlib.Logic.Function.Basic
import PlanRunner.Settings.Basic

/-!
# Selections of settings

The settings that files and variables can give, one by one. A selection has values for some of them.
Over other settings it takes the place of these and leaves the rest.
-/

namespace PlanRunner

/-- A setting that a file or a variable can give. -/
inductive Setting where
  | enableRewoo
  | maxRetries
  | maxReplansPerPlan
  | maxParallelSteps
  | stepTimeoutSecs
  | retryBackoffMs
  | logLevel
  deriving DecidableEq, Repr

namespace Setting

/-- All settings, in the order in which they are written. -/
def all : List Setting :=
  [.enableRewoo, .maxRetries, .maxReplansPerPlan, .maxParallelSteps, .stepTimeoutSecs,
    .retryBackoffMs, .logLevel]

/-- What the values of a setting are. -/
abbrev Value : Setting → Type
  | .enableRewoo => Bool
  | .maxRetries | .maxReplansPerPlan => UInt32
  | .maxParallelSteps | .stepTimeoutSecs | .retryBackoffMs => UInt64
  | .logLevel => String

def get (settings : Settings) : (setting : Setting) → setting.Value
  | .enableRewoo => settings.enableRewoo
  | .maxRetries => settings.maxRetries
  | .maxReplansPerPlan => settings.maxReplansPerPlan
  | .maxParallelSteps => settings.maxParallelSteps
  | .stepTimeoutSecs => settings.stepTimeoutSecs
  | .retryBackoffMs => settings.retryBackoffMs
  | .logLevel => settings.logLevel

def put (settings : Settings) : (setting : Setting) → setting.Value → Settings
  | .enableRewoo, value => { settings with enableRewoo := value }
  | .maxRetries, value => { settings with maxRetries := value }
  | .maxReplansPerPlan, value => { settings with maxReplansPerPlan := value }
  | .maxParallelSteps, value => { settings with maxParallelSteps := value }
  | .stepTimeoutSecs, value => { settings with stepTimeoutSecs := value }
  | .retryBackoffMs, value => { settings with retryBackoffMs := value }
  | .logLevel, value => { settings with logLevel := value }

theorem mem_all (setting : Setting) : setting ∈ all := by
  cases setting <;> decide

@[simp] theorem get_put_self (settings : Settings) (setting : Setting) (value : setting.Value) :
    setting.get (setting.put settings value) = value := by
  cases setting <;> rfl

/-- Putting one setting leaves the others. -/
theorem get_put_of_ne {setting other : Setting} (different : other ≠ setting)
    (settings : Settings) (value : setting.Value) :
    other.get (setting.put settings value) = other.get settings := by
  cases setting <;> cases other <;> simp_all [get, put]

@[simp] theorem path_put (settings : Settings) (setting : Setting) (value : setting.Value) :
    (setting.put settings value).path = settings.path := by
  cases setting <;> rfl

end Setting

/-- Settings are the same if they come from the same file and agree in each of them. -/
theorem Settings.eq_of_get {first second : Settings} (path : first.path = second.path)
    (same : ∀ setting : Setting, setting.get first = setting.get second) : first = second := by
  cases first
  cases second
  rw [Settings.mk.injEq]
  exact ⟨path, same .enableRewoo, same .maxRetries, same .maxReplansPerPlan,
    same .maxParallelSteps, same .stepTimeoutSecs, same .retryBackoffMs, same .logLevel⟩

/-- Values for some of the settings. -/
abbrev Selection := (setting : Setting) → Option setting.Value

namespace Selection

/-- No values at all. -/
def none : Selection := fun _ => Option.none

/-- The values of a selection, and those of another one where it has none. -/
def orElse (first second : Selection) : Selection :=
  fun setting => (first setting).or (second setting)

/-- Settings with those replaced for which a selection has values. -/
def onto (selection : Selection) (settings : Settings) : Settings where
  path := settings.path
  enableRewoo := (selection .enableRewoo).getD settings.enableRewoo
  maxRetries := (selection .maxRetries).getD settings.maxRetries
  maxReplansPerPlan := (selection .maxReplansPerPlan).getD settings.maxReplansPerPlan
  maxParallelSteps := (selection .maxParallelSteps).getD settings.maxParallelSteps
  stepTimeoutSecs := (selection .stepTimeoutSecs).getD settings.stepTimeoutSecs
  retryBackoffMs := (selection .retryBackoffMs).getD settings.retryBackoffMs
  logLevel := (selection .logLevel).getD settings.logLevel

@[simp] theorem get_onto (selection : Selection) (settings : Settings) (setting : Setting) :
    setting.get (selection.onto settings) = (selection setting).getD (setting.get settings) := by
  cases setting <;> rfl

@[simp] theorem path_onto (selection : Selection) (settings : Settings) :
    (selection.onto settings).path = settings.path := rfl

@[simp] theorem none_onto (settings : Settings) : none.onto settings = settings := rfl

/-- Of two selections over settings the outer one comes first. -/
theorem onto_onto (first second : Selection) (settings : Settings) :
    first.onto (second.onto settings) = (first.orElse second).onto settings := by
  refine Settings.eq_of_get rfl fun setting => ?_
  rw [get_onto, get_onto, get_onto, orElse, Option.getD_or]

/-- A selection is over settings already once it has been put over them. -/
theorem onto_self (selection : Selection) (settings : Settings) :
    selection.onto (selection.onto settings) = selection.onto settings := by
  have same : selection.orElse selection = selection := funext fun _ => Option.or_self
  rw [onto_onto, same]

/-- A setting that has been put is one more value of the selection. -/
theorem onto_put {selection : Selection} {setting : Setting} (absent : selection setting = .none)
    (settings : Settings) (value : setting.Value) :
    selection.onto (setting.put settings value) =
      onto (Function.update selection setting (some value)) settings := by
  refine Settings.eq_of_get (by simp) fun other => ?_
  by_cases same : other = setting
  · subst same
    rw [get_onto, get_onto, absent, Setting.get_put_self, Function.update_self]
    rfl
  · rw [get_onto, get_onto, Setting.get_put_of_ne same, Function.update_of_ne same]

end Selection

end PlanRunner
