import Mathlib.Logic.Function.Basic
import PlanRunner.Proofs.Settings.Selections
import PlanRunner.Settings.Overrides

/-!
# Values of variables

Which values a variable may have for its setting, and what an environment selects: a value that is
accepted takes the place of the setting, and any other value is as if the variable were not there.
-/

namespace PlanRunner

/-! ## Accepted values -/

namespace Settings

/-- A text that spells a number: decimal digits, perhaps after a plus, between blanks. -/
def Spells (raw : String) (number : Nat) : Prop :=
  ∃ digits, digits ≠ [] ∧ (∀ digit ∈ digits, digit.isDigit = true) ∧
    (Text.trimmed raw.toList = digits ∨ Text.trimmed raw.toList = '+' :: digits) ∧
    Nat.ofDigitChars 10 digits 0 = number

theorem digitsValue_eq (digits : List Char) :
    digitsValue digits = Nat.ofDigitChars 10 digits 0 := by
  simp only [digitsValue, Nat.ofDigitChars, Nat.mul_comm 10]

theorem parseNatural_eq_some_iff {bound number : Nat} {raw : String} :
    parseNatural bound raw = some number ↔ Spells raw number ∧ number < bound := by
  have scanned : ∀ digits : List Char,
      (if !digits.isEmpty && digits.all Char.isDigit && digitsValue digits < bound then
        some (digitsValue digits) else none) = some number ↔
      (digits ≠ [] ∧ (∀ digit ∈ digits, digit.isDigit = true) ∧
        Nat.ofDigitChars 10 digits 0 = number) ∧ number < bound := by
    intro digits
    rw [← digitsValue_eq, Option.ite_none_right_eq_some, Option.some.injEq]
    simp only [Bool.and_eq_true, Bool.not_eq_true', List.isEmpty_eq_false_iff, List.all_eq_true,
      decide_eq_true_eq]
    grind
  unfold parseNatural Spells
  split
  · rename_i rest plus
    rw [scanned, plus]
    simp only [List.cons.injEq, true_and]
    constructor
    · rintro ⟨⟨some, digits, value⟩, small⟩
      exact ⟨⟨rest, some, digits, .inr rfl, value⟩, small⟩
    · rintro ⟨⟨digits, some, areDigits, same, value⟩, small⟩
      rcases same with rfl | rfl
      · exact absurd (areDigits '+' List.mem_cons_self) (by decide)
      · exact ⟨⟨some, areDigits, value⟩, small⟩
  · rename_i noPlus
    rw [scanned]
    constructor
    · rintro ⟨⟨some, digits, value⟩, small⟩
      exact ⟨⟨_, some, digits, .inl rfl, value⟩, small⟩
    · rintro ⟨⟨digits, some, areDigits, same, value⟩, small⟩
      rcases same with rfl | plus
      · exact ⟨⟨some, areDigits, value⟩, small⟩
      · exact absurd plus (noPlus digits)

theorem parseWord32_eq_some_iff {raw : String} {value : UInt32} :
    parseWord32 raw = some value ↔ Spells raw value.toNat := by
  rw [parseWord32, Option.map_eq_some_iff]
  constructor
  · rintro ⟨number, parsed, rfl⟩
    obtain ⟨spells, small⟩ := parseNatural_eq_some_iff.1 parsed
    rwa [UInt32.toNat_ofNat_of_lt' small]
  · exact fun spells =>
      ⟨value.toNat, parseNatural_eq_some_iff.2 ⟨spells, value.toNat_lt⟩, UInt32.ofNat_toNat⟩

theorem parseWord64_eq_some_iff {raw : String} {value : UInt64} :
    parseWord64 raw = some value ↔ Spells raw value.toNat := by
  rw [parseWord64, Option.map_eq_some_iff]
  constructor
  · rintro ⟨number, parsed, rfl⟩
    obtain ⟨spells, small⟩ := parseNatural_eq_some_iff.1 parsed
    rwa [UInt64.toNat_ofNat_of_lt' small]
  · exact fun spells =>
      ⟨value.toNat, parseNatural_eq_some_iff.2 ⟨spells, value.toNat_lt⟩, UInt64.ofNat_toNat⟩

end Settings

namespace Setting

/-- The variable that gives a setting, if one does. -/
def variableName? : Setting → Option String
  | .enableRewoo => some "REWOO_ENABLE_REWOO"
  | .maxRetries => some "REWOO_MAX_RETRIES"
  | .maxReplansPerPlan => some "REWOO_MAX_REPLANS"
  | .maxParallelSteps => some "REWOO_MAX_PARALLEL"
  | .stepTimeoutSecs => some "REWOO_STEP_TIMEOUT_SECS"
  | .retryBackoffMs => none
  | .logLevel => some "REWOO_LOG_LEVEL"

/-- The texts that a setting accepts from a variable, and the values that they stand for. -/
def Accepts : (setting : Setting) → String → setting.Value → Prop
  | .enableRewoo, raw, value =>
      Text.asciiLowercase (Text.trim raw) ∈
        if value then ["1", "true", "yes", "on"] else ["0", "false", "no", "off"]
  | .maxRetries, raw, value | .maxReplansPerPlan, raw, value => Settings.Spells raw value.toNat
  | .maxParallelSteps, raw, value | .stepTimeoutSecs, raw, value =>
      Settings.Spells raw value.toNat
  | .retryBackoffMs, _, _ => False
  | .logLevel, raw, value =>
      (∃ character ∈ raw.toList, Text.isBlank character = false) ∧
        Text.asciiLowercase (Text.trim raw) = value

/-- The value of a setting that the text of a variable stands for. -/
def parse : (setting : Setting) → String → Option setting.Value
  | .enableRewoo => Settings.parseFlag
  | .maxRetries | .maxReplansPerPlan => Settings.parseWord32
  | .maxParallelSteps | .stepTimeoutSecs => Settings.parseWord64
  | .retryBackoffMs => fun _ => none
  | .logLevel => Settings.parseLevel

theorem eq_of_variableName {first second : Setting} {name : String}
    (isFirst : first.variableName? = some name) (isSecond : second.variableName? = some name) :
    first = second := by
  have unique : ∀ first ∈ all, ∀ second ∈ all,
      first.variableName? = second.variableName? → first.variableName? ≠ none →
        first = second := by decide
  exact unique first first.mem_all second second.mem_all (isFirst.trans isSecond.symm)
    (by simp [isFirst])

theorem parseFlag_eq_some_iff {raw : String} {value : Bool} :
    Settings.parseFlag raw = some value ↔ enableRewoo.Accepts raw value := by
  unfold Settings.parseFlag Accepts
  split <;> cases value <;> simp_all

theorem parseLevel_eq_some_iff {raw value : String} :
    Settings.parseLevel raw = some value ↔ logLevel.Accepts raw value := by
  unfold Settings.parseLevel Accepts
  rw [Option.ite_none_left_eq_some, Option.some.injEq, Text.isBlankText, List.all_eq_true]
  simp only [not_forall, Bool.not_eq_true, exists_prop]

/-- The values that are read are those that are accepted. -/
theorem parse_eq_some_iff {setting : Setting} {raw : String} {value : setting.Value} :
    setting.parse raw = some value ↔ setting.Accepts raw value := by
  cases setting with
  | enableRewoo => exact parseFlag_eq_some_iff
  | maxRetries | maxReplansPerPlan => exact Settings.parseWord32_eq_some_iff
  | maxParallelSteps | stepTimeoutSecs => exact Settings.parseWord64_eq_some_iff
  | retryBackoffMs => simp [parse, Accepts]
  | logLevel => exact parseLevel_eq_some_iff

end Setting

/-! ## Environments -/

namespace Variables

variable {environment first second : Variables} {setting : Setting} {name raw : String}

/-- The settings for which an environment has values that are accepted. -/
def selection (environment : Variables) : Selection := fun setting =>
  (setting.variableName?.bind environment).bind setting.parse

/-- A value that the setting of a variable accepts. -/
def Accepted (name raw : String) : Prop :=
  ∃ setting : Setting, setting.variableName? = some name ∧ ∃ value, setting.Accepts raw value

theorem accepted_iff (isName : setting.variableName? = some name) :
    Accepted name raw ↔ (setting.parse raw).isSome = true := by
  simp only [Option.isSome_iff_exists, Setting.parse_eq_some_iff]
  constructor
  · rintro ⟨other, otherName, accepts⟩
    obtain rfl := Setting.eq_of_variableName otherName isName
    exact accepts
  · exact fun accepts => ⟨setting, isName, accepts⟩

instance (name raw : String) : Decidable (Accepted name raw) :=
  decidable_of_iff
    (∃ setting ∈ Setting.all, setting.variableName? = some name ∧
      (setting.parse raw).isSome = true) <| by
    simp only [Accepted, Option.isSome_iff_exists, Setting.parse_eq_some_iff, Setting.mem_all,
      true_and]

/-- Each variable from the second environment if its value is accepted, else from the first. -/
def merged (first second : Variables) : Variables := fun name =>
  ((second name).filter (Accepted name ·)).or (first name)

theorem selection_merged (first second : Variables) :
    (merged first second).selection = second.selection.orElse first.selection := by
  funext setting
  rw [Selection.orElse, selection, selection, selection]
  cases isName : setting.variableName? with
  | none => rfl
  | some name =>
      rw [Option.bind_some, Option.bind_some, Option.bind_some, merged]
      cases isRaw : second name with
      | none => rfl
      | some raw =>
          have accepted : Accepted name raw ↔ (setting.parse raw).isSome = true :=
            accepted_iff isName
          cases parsed : setting.parse raw with
          | none =>
              have rejected : ¬Accepted name raw := by simp [accepted, parsed]
              rw [Option.filter_some, if_neg (by simpa using rejected), Option.none_or,
                Option.bind_some, parsed, Option.none_or]
          | some value =>
              have isAccepted : Accepted name raw := accepted.2 (by rw [parsed]; rfl)
              rw [Option.filter_some, if_pos (by simpa using isAccepted), Option.some_or,
                Option.bind_some, parsed, Option.some_or]

/-- An environment has a value for a setting that the setting accepts. -/
def Sets (environment : Variables) (setting : Setting) (value : setting.Value) : Prop :=
  ∃ name raw, setting.variableName? = some name ∧ environment name = some raw ∧
    setting.Accepts raw value

theorem sets_iff {value : setting.Value} :
    environment.Sets setting value ↔ environment.selection setting = some value := by
  simp only [Sets, selection, Option.bind_eq_some_iff, Setting.parse_eq_some_iff]
  constructor
  · rintro ⟨name, raw, isName, isRaw, accepts⟩
    exact ⟨raw, ⟨name, isName, isRaw⟩, accepts⟩
  · rintro ⟨raw, ⟨name, isName, isRaw⟩, accepts⟩
    exact ⟨name, raw, isName, isRaw, accepts⟩

end Variables

namespace Settings

variable {environment : Variables} {setting : Setting}

/-- Variables override settings as the selection of their accepted values says. -/
theorem override_eq (settings : Settings) (environment : Variables) :
    settings.override environment = environment.selection.onto settings := rfl

theorem override_override (settings : Settings) (first second : Variables) :
    (settings.override first).override second = settings.override (first.merged second) := by
  rw [override_eq, override_eq, override_eq, Selection.onto_onto, Variables.selection_merged]

theorem override_self (settings : Settings) (environment : Variables) :
    (settings.override environment).override environment = settings.override environment := by
  rw [override_eq, override_eq, Selection.onto_self]

theorem get_override_of_sets {value : setting.Value} (sets : environment.Sets setting value)
    (settings : Settings) : setting.get (settings.override environment) = value := by
  rw [override_eq, Selection.get_onto, Variables.sets_iff.1 sets, Option.getD_some]

/-- A setting without a value that it accepts stays as it is. -/
theorem get_override_of_not_sets (rejects : ∀ value, ¬environment.Sets setting value)
    (settings : Settings) : setting.get (settings.override environment) = setting.get settings := by
  have nothing : environment.selection setting = none :=
    Option.eq_none_iff_forall_ne_some.2 fun value isValue =>
      rejects value (Variables.sets_iff.2 isValue)
  rw [override_eq, Selection.get_onto, nothing, Option.getD_none]

/-- A variable changes no setting but its own. -/
theorem get_override_update {name : String} (other : setting.variableName? ≠ some name)
    (settings : Settings) (environment : Variables) (value : Option String) :
    setting.get (settings.override (Function.update environment name value)) =
      setting.get (settings.override environment) := by
  have same : Variables.selection (Function.update environment name value) setting =
      environment.selection setting := by
    rw [Variables.selection, Variables.selection]
    cases isName : setting.variableName? with
    | none => rfl
    | some own =>
        have different : own ≠ name := fun same => other (same ▸ isName)
        rw [Option.bind_some, Option.bind_some, Function.update_of_ne different]
  rw [override_eq, override_eq, Selection.get_onto, Selection.get_onto, same]

end Settings

end PlanRunner
