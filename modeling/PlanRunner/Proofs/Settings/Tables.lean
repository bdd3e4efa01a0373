import PlanRunner.Proofs.Settings.Selections
import PlanRunner.Settings.Text

/-!
# Settings of tables

What the values of a table must be for settings to be read from it, and which settings these are:
those of the table over the defaults.
-/

namespace PlanRunner

/-! ## Values -/

namespace Setting

/-- The key of a setting in a table. -/
def key : Setting → String
  | .enableRewoo => "enable_rewoo"
  | .maxRetries => "max_retries"
  | .maxReplansPerPlan => "max_replans_per_plan"
  | .maxParallelSteps => "max_parallel_steps"
  | .stepTimeoutSecs => "step_timeout_secs"
  | .retryBackoffMs => "retry_backoff_ms"
  | .logLevel => "log_level"

/-- A value of a setting as a table has it. -/
def toToml : (setting : Setting) → setting.Value → Toml.Value
  | .enableRewoo, value => .boolean value
  | .maxRetries, value | .maxReplansPerPlan, value => .integer value.toNat
  | .maxParallelSteps, value | .stepTimeoutSecs, value | .retryBackoffMs, value =>
      .integer value.toNat
  | .logLevel, value => .string value

/-- Reads a value of a setting. -/
def read : (setting : Setting) → Toml.Value → Except ReadError setting.Value
  | .enableRewoo => Toml.Value.flag
  | .maxRetries | .maxReplansPerPlan => Toml.Value.word32
  | .maxParallelSteps => Toml.Value.size
  | .stepTimeoutSecs | .retryBackoffMs => Toml.Value.word64
  | .logLevel => Toml.Value.text

theorem key_injective {first second : Setting} (same : first.key = second.key) :
    first = second := by
  have unique : ∀ first ∈ all, ∀ second ∈ all, first.key = second.key → first = second := by decide
  exact unique first first.mem_all second second.mem_all same

end Setting

namespace Toml

variable {value : Value}

theorem Value.natural_eq_ok_iff {bound number : Nat} {expected : String} :
    value.natural bound expected = .ok number ↔ value = .integer number ∧ number < bound := by
  unfold Value.natural
  split
  · rename_i integer
    split
    · rename_i fits
      simp only [Except.ok.injEq, Value.integer.injEq]
      omega
    · rename_i tooLarge
      simp only [reduceCtorEq, Value.integer.injEq, false_iff]
      omega
  · rename_i noInteger
    simp only [reduceCtorEq, false_iff]
    exact fun same => noInteger number same.1

/-- Words are read from the integers that they stand for. -/
theorem Value.map_natural_eq_ok_iff {α : Type} {ofNat : Nat → α} {toNat : α → Nat} {bound : Nat}
    {expected : String} {word : α} (small : ∀ word, toNat word < bound)
    (ofNat_toNat : ∀ word, ofNat (toNat word) = word)
    (toNat_ofNat : ∀ number < bound, toNat (ofNat number) = number) :
    (value.natural bound expected).map ofNat = .ok word ↔ value = .integer (toNat word) := by
  constructor
  · intro isWord
    cases isNumber : value.natural bound expected with
    | error error => rw [isNumber] at isWord; contradiction
    | ok number =>
        obtain ⟨rfl, fits⟩ := natural_eq_ok_iff.1 isNumber
        rw [isNumber] at isWord
        rw [← Except.ok.inj isWord, toNat_ofNat number fits]
  · intro isInteger
    rw [natural_eq_ok_iff.2 ⟨isInteger, small word⟩]
    exact congrArg Except.ok (ofNat_toNat word)

theorem Value.word32_eq_ok_iff {word : UInt32} :
    value.word32 = .ok word ↔ value = .integer word.toNat :=
  map_natural_eq_ok_iff UInt32.toNat_lt (fun _ => UInt32.ofNat_toNat)
    fun _ fits => UInt32.toNat_ofNat_of_lt' fits

theorem Value.word64_eq_ok_iff {word : UInt64} :
    value.word64 = .ok word ↔ value = .integer word.toNat :=
  map_natural_eq_ok_iff UInt64.toNat_lt (fun _ => UInt64.ofNat_toNat)
    fun _ fits => UInt64.toNat_ofNat_of_lt' fits

theorem Value.size_eq_ok_iff {word : UInt64} :
    value.size = .ok word ↔ value = .integer word.toNat :=
  map_natural_eq_ok_iff UInt64.toNat_lt (fun _ => UInt64.ofNat_toNat)
    fun _ fits => UInt64.toNat_ofNat_of_lt' fits

/-- What a table has for settings: a value of its kind for each that is selected. -/
def Table.Gives (table : Table) (selection : Selection) : Prop :=
  ∀ setting, table.lookup setting.key = (selection setting).map setting.toToml

end Toml

/-- A value is read as what it stands for. -/
theorem Setting.read_eq_ok_iff {setting : Setting} {found : Toml.Value} {value : setting.Value} :
    setting.read found = .ok value ↔ found = setting.toToml value := by
  cases setting with
  | enableRewoo => cases found <;> simp [read, toToml, Toml.Value.flag]
  | maxRetries | maxReplansPerPlan => exact Toml.Value.word32_eq_ok_iff
  | maxParallelSteps => exact Toml.Value.size_eq_ok_iff
  | stepTimeoutSecs | retryBackoffMs => exact Toml.Value.word64_eq_ok_iff
  | logLevel => cases found <;> simp [read, toToml, Toml.Value.text]

/-! ## Entries -/

namespace Settings

open Toml (Table)

variable {table : Table} {base settings : Settings} {setting : Setting} {key : String}
  {found : Toml.Value} {value : setting.Value}

/-- The entry of a setting is read and put in its place. -/
theorem takeEntry_key (base : Settings) (setting : Setting) (found : Toml.Value) :
    takeEntry base (setting.key, found) = (setting.read found).map (setting.put base) := by
  cases setting <;> simp only [takeEntry, Setting.key, Setting.read] <;> rfl

/-- The entry of another key is passed over. -/
theorem takeEntry_other (other : ∀ setting : Setting, setting.key ≠ key) :
    takeEntry base (key, found) = .ok base := by
  have different (setting : Setting) {value : Toml.Value} : (key, found) ≠ (setting.key, value) :=
    fun same => other setting (Prod.mk.inj same).1.symm
  unfold takeEntry
  split
  case h_1 same => exact absurd same (different .enableRewoo)
  case h_2 same => exact absurd same (different .maxRetries)
  case h_3 same => exact absurd same (different .maxReplansPerPlan)
  case h_4 same => exact absurd same (different .maxParallelSteps)
  case h_5 same => exact absurd same (different .stepTimeoutSecs)
  case h_6 same => exact absurd same (different .retryBackoffMs)
  case h_7 same => exact absurd same (different .logLevel)
  case h_8 => rfl

end Settings

namespace Toml.Table

variable {table : Table} {selection : Selection} {setting : Setting} {key : String}
  {found : Value} {value : setting.Value}

namespace Gives

theorem nil_iff : Gives [] selection ↔ selection = .none := by
  simp only [Gives, List.lookup_nil, Selection.none, funext_iff, eq_comm (a := Option.none),
    Option.map_eq_none_iff]

/-- An entry under another key gives nothing. -/
theorem cons_other_iff (other : ∀ setting : Setting, setting.key ≠ key) :
    Gives ((key, found) :: table) selection ↔ table.Gives selection := by
  simp only [Gives, List.lookup_cons, beq_false_of_ne (other _)]

/-- An entry gives its setting, and the entries behind it all others. -/
theorem cons_key_iff (absent : setting.key ∉ table.map Prod.fst) :
    Gives ((setting.key, found) :: table) selection ↔
      ∃ value, selection setting = some value ∧ found = setting.toToml value ∧
        table.Gives (Function.update selection setting none) := by
  have missing := Keyed.lookup_eq_none absent
  constructor
  · intro gives
    have own := gives setting
    rw [List.lookup_cons, beq_self_eq_true] at own
    obtain ⟨value, isValue, same⟩ := Option.map_eq_some_iff.1 own.symm
    refine ⟨value, isValue, same.symm, fun other => ?_⟩
    by_cases isSetting : other = setting
    · rw [isSetting, Function.update_self, missing, Option.map_none]
    · have given := gives other
      rw [List.lookup_cons, beq_false_of_ne (isSetting ∘ Setting.key_injective)] at given
      rw [Function.update_of_ne isSetting]
      exact given
  · rintro ⟨value, isValue, rfl, gives⟩ other
    by_cases isSetting : other = setting
    · rw [isSetting, List.lookup_cons, beq_self_eq_true, isValue, Option.map_some]
    · have given := gives other
      rw [Function.update_of_ne isSetting] at given
      rw [List.lookup_cons, beq_false_of_ne (isSetting ∘ Setting.key_injective)]
      exact given

end Gives

end Toml.Table

/-! ## Tables -/

namespace Settings

variable {table : Toml.Table} {base settings : Settings}

/-- Reading a table puts what it gives over the settings, and fails if it gives nothing valid. -/
theorem foldlM_takeEntry_eq_ok_iff (distinct : (table.map Prod.fst).Nodup) :
    table.foldlM takeEntry base = .ok settings ↔
      ∃ selection, table.Gives selection ∧ selection.onto base = settings := by
  induction table generalizing base with
  | nil =>
      simp only [List.foldlM_nil, Toml.Table.Gives.nil_iff, exists_eq_left, Selection.none_onto]
      exact ⟨Except.ok.inj, congrArg Except.ok⟩
  | cons entry rest ih =>
      obtain ⟨key, found⟩ := entry
      obtain ⟨absent, others⟩ := List.nodup_cons.1 distinct
      rw [List.foldlM_cons]
      by_cases named : ∃ setting : Setting, setting.key = key
      · obtain ⟨setting, rfl⟩ := named
        rw [takeEntry_key]
        constructor
        · intro isRead
          cases isValue : setting.read found with
          | error error => rw [isValue] at isRead; contradiction
          | ok value =>
              rw [isValue] at isRead
              obtain ⟨selection, gives, rfl⟩ := (ih others).1 isRead
              have unset : selection setting = none := by
                have missing := gives setting
                rw [Keyed.lookup_eq_none absent] at missing
                exact Option.map_eq_none_iff.1 missing.symm
              refine ⟨Function.update selection setting (some value),
                (Toml.Table.Gives.cons_key_iff absent).2 ⟨value, Function.update_self .., ?_, ?_⟩,
                (Selection.onto_put unset base value).symm⟩
              · exact Setting.read_eq_ok_iff.1 isValue
              · rwa [Function.update_idem, ← unset, Function.update_eq_self]
        · rintro ⟨selection, gives, rfl⟩
          obtain ⟨value, isValue, rfl, givesOthers⟩ :=
            (Toml.Table.Gives.cons_key_iff absent).1 gives
          rw [Setting.read_eq_ok_iff.2 rfl]
          refine (ih others).2 ⟨_, givesOthers, ?_⟩
          rw [Selection.onto_put (Function.update_self ..), Function.update_idem, ← isValue,
            Function.update_eq_self]
      · have other : ∀ setting : Setting, setting.key ≠ key := fun setting same =>
          named ⟨setting, same⟩
        rw [takeEntry_other other]
        simp only [Toml.Table.Gives.cons_other_iff other]
        exact ih others

theorem ofTable_eq_ok_iff (distinct : (table.map Prod.fst).Nodup) :
    ofTable table = .ok settings ↔
      ∃ selection, table.Gives selection ∧ selection.onto {} = settings :=
  foldlM_takeEntry_eq_ok_iff distinct

/-- No key stands twice in the table of a text. -/
theorem nodup_keys_of_ofText {text : String} (isTable : Toml.Table.ofText text = some table) :
    (table.map Prod.fst).Nodup := by
  obtain ⟨statements, -, isFilled⟩ := Option.bind_eq_some_iff.1 isTable
  obtain ⟨entries, -, rfl⟩ := Option.map_eq_some_iff.1 isFilled
  refine List.Pairwise.imp (fun before same => ?_) (Keyed.sorted_ofList _)
  rw [same] at before
  exact String.lt_irrefl _ before

/-- The settings of a text are what its table gives over the defaults. -/
theorem ofText_eq_ok_iff {text : String} :
    ofText text = .ok settings ↔
      ∃ table selection, Toml.Table.ofText text = some table ∧ table.Gives selection ∧
        selection.onto {} = settings := by
  unfold ofText
  cases isTable : Toml.Table.ofText text with
  | none => simp
  | some table =>
      have distinct := nodup_keys_of_ofText isTable
      simp only [Option.some.injEq, exists_and_left, exists_eq_left', ← ofTable_eq_ok_iff distinct]
      cases ofTable table <;> simp

end Settings

end PlanRunner
