import PlanRunner.Proofs.Settings.Overrides
import PlanRunner.Proofs.Settings.Written

/-!
# Loaded settings

Settings are loaded as the defaults with the values of a file over them and those of the environment
over both. Environments that are applied one after the other are as one.
-/

namespace PlanRunner

namespace Settings

variable {settings loaded : Settings} {environment : Variables} {home : Option String}
  {tree changed : FileTree}

theorem finish_eq_ok_iff :
    finish environment settings = .ok loaded ↔
      loaded.validate = .ok () ∧ loaded = settings.override environment := by
  rw [finish, checked_eq_ok_iff, eq_comm (a := loaded)]
  refine and_congr_left ?_
  rintro rfl
  rfl

/-- The file that settings are loaded from, if one is there. -/
def filePath? (environment : Variables) (home : Option String) (tree : FileTree) : Option String :=
  (defaultPath? environment home).filter tree.isThere

theorem run_loadOrDefault (environment : Variables) (home : Option String) (tree : FileTree) :
    (loadOrDefault FileTree.access environment home).run tree =
      ((match filePath? environment home tree with
        | some path => (ofTree tree path).bind (finish environment)
        | none => finish environment {}), tree) := by
  rw [loadOrDefault, filePath?]
  cases defaultPath? environment home with
  | none => rfl
  | some path =>
      have answered : (FileTree.access.isThere path).run tree =
          pure (tree.isThere path, tree) := rfl
      rw [Option.filter_some, StateT.run_bind, answered, pure_bind]
      cases tree.isThere path with
      | true =>
          rw [if_pos rfl, if_pos rfl, StateT.run_bind, run_load]
          rfl
      | false => rfl

/-- What the environment is applied to: the settings of a file that is there, else the defaults. -/
def IsBase (settings : Settings) (tree : FileTree) : Option String → Prop
  | some path => settings.StandsIn tree path
  | none => settings = {}

/-- Settings are loaded if those of the file are valid, and still are under the environment. -/
theorem run_loadOrDefault_eq_ok_iff :
    (loadOrDefault FileTree.access environment home).run tree = (.ok loaded, changed) ↔
      (∃ base : Settings, base.IsBase tree (filePath? environment home tree) ∧
        loaded.validate = .ok () ∧ loaded = base.override environment) ∧ tree = changed := by
  rw [run_loadOrDefault, Prod.mk.injEq]
  refine and_congr_left fun _ => ?_
  cases filePath? environment home tree with
  | none => simp only [IsBase, finish_eq_ok_iff, exists_eq_left]
  | some path => simp only [IsBase, bind_eq_ok_iff, finish_eq_ok_iff, ofTree_eq_ok_iff]

end Settings

/--
Two environments that are applied one after the other are one environment, which takes each variable
from the second one if its value is accepted there; one that is applied twice is applied once. A
value that is accepted becomes the setting, a setting without one stays, and no variable changes
another setting. Settings are loaded exactly if those of the file, if it is there, can be read and
are valid, and still are with the environment over them; then they are the defaults with the values
of the file over them and those of the environment over both.
-/
theorem overrides_compose :
    (∀ (settings : Settings) (first second : Variables),
      (settings.override first).override second = settings.override (first.merged second)) ∧
    (∀ (settings : Settings) (environment : Variables),
      (settings.override environment).override environment = settings.override environment) ∧
    (∀ (settings : Settings) (environment : Variables) (setting : Setting),
      (∀ value, environment.Sets setting value →
        setting.get (settings.override environment) = value) ∧
      ((∀ value, ¬environment.Sets setting value) →
        setting.get (settings.override environment) = setting.get settings)) ∧
    (∀ (settings : Settings) (environment : Variables) (setting : Setting) (name : String)
      (value : Option String), setting.variableName? ≠ some name →
        setting.get (settings.override (Function.update environment name value)) =
          setting.get (settings.override environment)) ∧
    ∀ (environment : Variables) (home : Option String) (tree changed : FileTree)
      (loaded : Settings),
      (Settings.loadOrDefault FileTree.access environment home).run tree =
          (.ok loaded, changed) ↔
        (∃ base : Settings,
          base.IsBase tree (Settings.filePath? environment home tree) ∧
            loaded.validate = .ok () ∧ loaded = base.override environment) ∧ tree = changed := by
  refine ⟨Settings.override_override, Settings.override_self,
    fun settings environment setting => ?single,
    fun settings environment setting name value other => ?others,
    fun environment home tree changed loaded => ?loads⟩
  case single =>
    exact ⟨fun value sets => Settings.get_override_of_sets sets settings,
      fun rejects => Settings.get_override_of_not_sets rejects settings⟩
  case others => exact Settings.get_override_update other settings environment value
  case loads => exact Settings.run_loadOrDefault_eq_ok_iff

/-- Variables that give a file, a level, and retries that are no number. -/
def talkativeVariables : Variables
  | "REWOO_ENGINE_CONFIG" => some " rc "
  | "REWOO_MAX_RETRIES" => some "lots"
  | "REWOO_LOG_LEVEL" => some " DEBUG"
  | _ => none

/-- Only the level is accepted. -/
theorem selection_talkativeVariables :
    talkativeVariables.selection = Function.update Selection.none .logLevel (some "debug") := by
  have trimmed : Text.trim " DEBUG" = "DEBUG" := by decide
  have lowered : Text.asciiLowercase "DEBUG" = "debug" := by cbv
  have parsed : Settings.parseLevel " DEBUG" = some "debug" := by
    rw [Settings.parseLevel, if_neg (by decide), trimmed, lowered]
  funext setting
  cases setting with
  | logLevel => exact parsed
  | _ => decide

theorem filePath?_talkativeVariables (text : String) :
    Settings.filePath? talkativeVariables none (rcTree text) = some "rc" := by
  have isPath : Settings.defaultPath? talkativeVariables none = some "rc" := by decide
  have isThere : (rcTree text).isThere "rc" = true := by
    unfold rcTree
    generalize FileTree.bytesOf text = bytes
    cbv
  rw [Settings.filePath?, isPath, Option.filter_some, if_pos isThere]

/--
A level that is accepted, a number of retries that is not, and a file with another level and other
retries.
-/
theorem overrides_compose_talkative :
    (talkativeVariables.Sets .logLevel "debug" ∧
      ∀ value, ¬talkativeVariables.Sets .maxRetries value) ∧
    Setting.logLevel.get (({} : Settings).override talkativeVariables) = "debug" ∧
    Setting.maxRetries.get (({} : Settings).override talkativeVariables) = 0 ∧
    Setting.maxRetries.get
      (({} : Settings).override (Function.update talkativeVariables "REWOO_MAX_PARALLEL" none)) =
        Setting.maxRetries.get (({} : Settings).override talkativeVariables) ∧
    (Settings.loadOrDefault FileTree.access talkativeVariables none).run
        (rcTree (quietSelection.onto {}).toText) =
      (.ok { path := some "rc", maxRetries := 3, logLevel := "debug" },
        rcTree (quietSelection.onto {}).toText) := by
  obtain ⟨-, -, single, others, loads⟩ := overrides_compose
  have level : talkativeVariables.Sets .logLevel "debug" := by
    rw [Variables.sets_iff, selection_talkativeVariables]
    rfl
  have retries : ∀ value, ¬talkativeVariables.Sets .maxRetries value := by
    intro value
    rw [Variables.sets_iff, selection_talkativeVariables]
    nofun
  have other : Setting.maxRetries.variableName? ≠ some "REWOO_MAX_PARALLEL" := by decide
  have isBase : ({ quietSelection.onto {} with path := some "rc" } : Settings).IsBase
      (rcTree (quietSelection.onto {}).toText)
      (Settings.filePath? talkativeVariables none (rcTree (quietSelection.onto {}).toText)) := by
    rw [filePath?_talkativeVariables]
    exact ⟨_, _, readText_rcTree _, Settings.givenBy_toText (by decide),
      Settings.valid_selection (by decide), rfl⟩
  have overridden : ({ path := some "rc", maxRetries := 3, logLevel := "debug" } : Settings) =
      Settings.override { quietSelection.onto {} with path := some "rc" } talkativeVariables := by
    rw [Settings.override_eq, selection_talkativeVariables]
    rfl
  have loaded := (loads talkativeVariables none _ _
    { path := some "rc", maxRetries := 3, logLevel := "debug" }).2
      ⟨⟨_, isBase, by decide, overridden⟩, rfl⟩
  exact ⟨⟨level, retries⟩, (single {} _ .logLevel).1 _ level, (single {} _ .maxRetries).2 retries,
    others {} _ _ _ none other, loaded⟩

end PlanRunner
