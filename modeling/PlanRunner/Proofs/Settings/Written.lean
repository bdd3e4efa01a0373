import Mathlib
import PlanRunner.Proofs.Files.Written
import PlanRunner.Proofs.Settings.Tables
import PlanRunner.Proofs.Toml.Lines
import PlanRunner.Settings.Store

/-!
# Written settings

Valid settings that are saved to a file are loaded from it again, and a file with values for some of
the settings, in any order, is loaded as these values over the defaults.
-/

namespace PlanRunner

open Toml (Line Table)

/-! ## Values -/

namespace Setting

variable {setting : Setting} {value : setting.Value}

/-- The text of a value. -/
def text : (setting : Setting) → setting.Value → String
  | .enableRewoo, value => if value then "true" else "false"
  | .maxRetries, value | .maxReplansPerPlan, value => toString value
  | .maxParallelSteps, value | .stepTimeoutSecs, value | .retryBackoffMs, value => toString value
  | .logLevel, value => Toml.writeString value

/-- The line that gives a value. -/
def line (setting : Setting) (value : setting.Value) : Line where
  key := setting.key
  text := setting.text value
  value := setting.toToml value

/-- A value that is valid for its setting. -/
def Valid : (setting : Setting) → setting.Value → Prop
  | .maxReplansPerPlan, count => count ≤ Settings.maxReplansCeiling
  | .logLevel, level => level ∈ Settings.logLevels
  | .enableRewoo, _ | .maxRetries, _ | .maxParallelSteps, _ | .stepTimeoutSecs, _
  | .retryBackoffMs, _ => True

theorem writes_number {number : Nat} (word : number < 2 ^ 64) :
    Toml.Writes (toString number).toList (.integer number) := by
  have digits : (toString number).toList = Nat.toDigits 10 number := Nat.toList_repr
  rw [digits]
  exact Toml.writes_natural (by omega)

theorem writes_text (valid : setting.Valid value) :
    Toml.Writes (setting.text value).toList (setting.toToml value) := by
  cases setting with
  | enableRewoo => exact Toml.writes_flag value
  | maxRetries | maxReplansPerPlan => exact writes_number (Nat.lt_trans value.toNat_lt (by decide))
  | maxParallelSteps | stepTimeoutSecs | retryBackoffMs => exact writes_number value.toNat_lt
  | logLevel =>
      have shown : (Settings.logLevels.all fun level =>
          level.toList.all (Toml.IsShown ·)) = true := by decide
      simp only [List.all_eq_true, decide_eq_true_eq] at shown
      exact Toml.writes_string (shown value valid)

theorem plain_line (valid : setting.Valid value) : (setting.line value).Plain := by
  have nonempty : setting.key.toList ≠ [] := by cases setting <;> decide
  have bare : setting.key.toList.all Toml.isBareKey = true := by cases setting <;> decide
  exact ⟨nonempty, List.all_eq_true.1 bare, writes_text valid⟩

end Setting

/-! ## Validity -/

namespace Settings

variable {settings : Settings}

theorem validate_eq_ok_iff :
    settings.validate = .ok () ↔ ∀ setting : Setting, setting.Valid (setting.get settings) := by
  have each : (∀ setting : Setting, setting.Valid (setting.get settings)) ↔
      settings.logLevel ∈ logLevels ∧ settings.maxReplansPerPlan ≤ maxReplansCeiling := by
    constructor
    · exact fun valid => ⟨valid .logLevel, valid .maxReplansPerPlan⟩
    · rintro ⟨level, replans⟩ setting
      cases setting with
      | logLevel => exact level
      | maxReplansPerPlan => exact replans
      | _ => trivial
  rw [each, validate]
  split
  · simp_all
  · split
    · simp_all [UInt32.not_le]
    · simp_all [UInt32.not_lt]

/-- The defaults are valid. -/
theorem validate_default : ({} : Settings).validate = .ok () := by decide

end Settings

namespace Selection

variable {selection : Selection}

/-- The values of a selection are valid. -/
def Valid (selection : Selection) : Prop :=
  ∀ setting value, selection setting = some value → setting.Valid value

/-- A selection over the defaults is valid if its values are. -/
theorem validate_onto_default :
    (selection.onto {}).validate = .ok () ↔ selection.Valid := by
  have defaults := Settings.validate_eq_ok_iff.1 Settings.validate_default
  simp only [Settings.validate_eq_ok_iff, get_onto]
  constructor
  · intro valid setting value isValue
    have isValid := valid setting
    rwa [isValue] at isValid
  · intro valid setting
    cases isValue : selection setting with
    | none => exact defaults setting
    | some value => exact valid setting value isValue

/-! ## Lines -/

/-- A line for each value of a selection. -/
def lines (selection : Selection) : List Line :=
  Setting.all.filterMap fun setting => (selection setting).map setting.line

theorem mem_lines {line : Line} :
    line ∈ selection.lines ↔
      ∃ setting value, selection setting = some value ∧ setting.line value = line := by
  simp only [lines, List.mem_filterMap, Option.map_eq_some_iff, Setting.mem_all, true_and]

theorem nodup_keys_lines (selection : Selection) : (selection.lines.map (·.key)).Nodup := by
  have keys : selection.lines.map (·.key) =
      Setting.all.filterMap fun setting => (selection setting).map fun _ => setting.key := by
    rw [lines, List.map_filterMap]
    simp only [Option.map_map]
    rfl
  rw [keys]
  refine List.Nodup.filterMap (fun first second key isFirst isSecond => ?_) (by decide)
  obtain ⟨-, -, rfl⟩ := Option.map_eq_some_iff.1 isFirst
  obtain ⟨-, -, same⟩ := Option.map_eq_some_iff.1 isSecond
  exact Setting.key_injective same.symm

/-- A text is TOML and has the values of a selection, and none for other settings. -/
def GivenBy (selection : Selection) (text : String) : Prop :=
  ∃ table, Table.ofText text = some table ∧ table.Gives selection

/-- The lines of a selection give it in any order. -/
theorem givenBy_of_perm (valid : selection.Valid) {lines : List Line}
    (anyOrder : lines.Perm selection.lines) :
    selection.GivenBy (String.join (lines.map (·.toText))) := by
  have plain : ∀ line ∈ lines, line.Plain := by
    intro line member
    obtain ⟨setting, value, isValue, rfl⟩ := mem_lines.1 (anyOrder.mem_iff.1 member)
    exact Setting.plain_line (valid setting value isValue)
  have distinct : (lines.map (·.key)).Nodup :=
    (anyOrder.map (·.key)).nodup_iff.2 selection.nodup_keys_lines
  refine ⟨_, Table.ofText_lines plain distinct, fun setting => Option.ext fun found => ?_⟩
  have entryKeys : ((lines.map fun line => (line.key, line.value)).map Prod.fst).Nodup := by
    rwa [List.map_map]
  rw [Keyed.lookup_ofList entryKeys, Keyed.lookup_eq_some_iff entryKeys, List.mem_map,
    Option.map_eq_some_iff]
  simp only [anyOrder.mem_iff, mem_lines]
  constructor
  · rintro ⟨line, ⟨other, value, isValue, rfl⟩, same⟩
    obtain ⟨sameKey, rfl⟩ := Prod.mk.inj same
    obtain rfl := Setting.key_injective sameKey
    exact ⟨value, isValue, rfl⟩
  · rintro ⟨value, isValue, rfl⟩
    exact ⟨_, ⟨setting, value, isValue, rfl⟩, rfl⟩

end Selection

/-! ## Files -/

namespace Settings

variable {settings loaded : Settings} {path text : String} {tree changed : FileTree}

/-- All settings as they are. -/
def selection (settings : Settings) : Selection := fun setting => some (setting.get settings)

theorem valid_selection (valid : settings.validate = .ok ()) : settings.selection.Valid := by
  intro setting value isValue
  rw [← Option.some.inj isValue]
  exact validate_eq_ok_iff.1 valid setting

/-- Settings are written as the lines of all of them. -/
theorem toText_eq (settings : Settings) :
    settings.toText = String.join (settings.selection.lines.map (·.toText)) := by
  have lines : settings.selection.lines =
      Setting.all.map fun setting => setting.line (setting.get settings) := rfl
  rw [lines]
  simp only [Setting.all, List.map_cons, List.map_nil, String.join, List.foldl_cons,
    List.foldl_nil, String.empty_append]
  rfl

theorem givenBy_toText (valid : settings.validate = .ok ()) :
    settings.selection.GivenBy settings.toText := by
  rw [toText_eq]
  exact Selection.givenBy_of_perm (valid_selection valid) (List.Perm.refl _)

theorem checked_eq_ok_iff :
    settings.checked = .ok loaded ↔ settings.validate = .ok () ∧ settings = loaded := by
  unfold checked
  split <;> simp_all

/-- The settings of a file are the valid values that it gives over the defaults. -/
theorem ofFile_eq_ok_iff :
    ofFile path text = .ok loaded ↔
      ∃ selection : Selection, selection.GivenBy text ∧ selection.Valid ∧
        loaded = { selection.onto {} with path := some path } := by
  unfold ofFile
  constructor
  · intro isLoaded
    cases isText : ofText text with
    | error error => rw [isText] at isLoaded; contradiction
    | ok settings =>
        rw [isText] at isLoaded
        obtain ⟨table, selection, isTable, gives, rfl⟩ := ofText_eq_ok_iff.1 isText
        obtain ⟨valid, rfl⟩ := checked_eq_ok_iff.1 isLoaded
        exact ⟨selection, ⟨table, isTable, gives⟩, Selection.validate_onto_default.1 valid, rfl⟩
  · rintro ⟨selection, ⟨table, isTable, gives⟩, valid, rfl⟩
    rw [ofText_eq_ok_iff.2 ⟨table, selection, isTable, gives, rfl⟩]
    exact checked_eq_ok_iff.2 ⟨Selection.validate_onto_default.2 valid, rfl⟩

/-- Settings that a file has: the valid values that it gives over the defaults. -/
def StandsIn (settings : Settings) (tree : FileTree) (path : String) : Prop :=
  ∃ (text : String) (selection : Selection), tree.readText path = .ok text ∧
    selection.GivenBy text ∧ selection.Valid ∧
      settings = { selection.onto {} with path := some path }

/-- The settings of a file, or why it has none. -/
def ofTree (tree : FileTree) (path : String) : Except SettingsError Settings :=
  match tree.readText path with
  | .ok text => ofFile path text
  | .error error => .error (.file error)

theorem ofTree_eq_ok_iff : ofTree tree path = .ok loaded ↔ loaded.StandsIn tree path := by
  unfold ofTree StandsIn
  cases tree.readText path with
  | error error => simp
  | ok text => simp [ofFile_eq_ok_iff]

/-- Loading changes no file. -/
theorem run_load (path : String) (tree : FileTree) :
    (load FileTree.access path).run tree = (ofTree tree path, tree) := by
  change (match tree.readText path with
    | .ok text => pure (ofFile path text)
    | .error error => pure (.error (.file error)) : StateM FileTree _).run tree = _
  unfold ofTree
  cases tree.readText path <;> rfl

theorem run_load_of_standsIn (stands : loaded.StandsIn tree path) :
    (load FileTree.access path).run tree = (.ok loaded, tree) := by
  rw [run_load, ofTree_eq_ok_iff.2 stands]

theorem run_save (settings : Settings) (path : String) (tree : FileTree) :
    (save FileTree.access settings path).run tree =
      match FileTree.makeDirectories (FilePath.parent path) tree with
      | (.error error, made) => (.error (.file error), made)
      | (.ok (), made) =>
          match made.writeBytes path (FileTree.bytesOf settings.toText) with
          | .error error => (.error (.file error), made)
          | .ok changed => (.ok (), changed) := by
  simp only [save, FileTree.access, StateT.run, bind, StateT.bind]
  rcases FileTree.makeDirectories (FilePath.parent path) tree with ⟨error | _, made⟩
  · rfl
  · simp only [StateT.bind, FileTree.write]
    cases made.writeBytes path (FileTree.bytesOf settings.toText) <;> rfl

/-- Settings are saved by making the directories around the file and writing the text. -/
theorem run_save_eq_ok_iff :
    (save FileTree.access settings path).run tree = (.ok (), changed) ↔
      ∃ made : FileTree, FileTree.makeDirectories (FilePath.parent path) tree = (.ok (), made) ∧
        made.writeBytes path (FileTree.bytesOf settings.toText) = .ok changed := by
  rw [run_save]
  constructor
  · intro saved
    split at saved
    · cases saved
    · rename_i made isMade
      split at saved
      · cases saved
      · rename_i isWritten
        obtain rfl := (Prod.mk.inj saved).2
        exact ⟨made, isMade, isWritten⟩
  · rintro ⟨made, isMade, isWritten⟩
    simp only [isMade, isWritten]

/-- A file that gives valid values is loaded as these values over the defaults. -/
theorem load_of_givenBy {selection : Selection} (valid : selection.Valid)
    (given : selection.GivenBy text) (isText : tree.readText path = .ok text) :
    (load FileTree.access path).run tree =
      (.ok { selection.onto {} with path := some path }, tree) :=
  run_load_of_standsIn ⟨text, selection, isText, given, valid, rfl⟩

theorem load_toText (valid : settings.validate = .ok ())
    (isText : tree.readText path = .ok settings.toText) :
    (load FileTree.access path).run tree = (.ok { settings with path := some path }, tree) :=
  load_of_givenBy (valid_selection valid) (givenBy_toText valid) isText

theorem load_of_save (valid : settings.validate = .ok ())
    (saved : (save FileTree.access settings path).run tree = (.ok (), changed)) :
    (load FileTree.access path).run changed =
      (.ok { settings with path := some path }, changed) := by
  obtain ⟨made, -, isWritten⟩ := run_save_eq_ok_iff.1 saved
  exact load_toText valid (FileTree.readText_of_writeBytes isWritten)

end Settings

/--
Valid settings are loaded from the text that they are written as, in any file, and from the file
that they were saved to, with the path of the file and otherwise as they were. They are saved
exactly if the directories around the file can be made and the file can be written there. A file
that gives valid values for some settings is loaded as these values over the defaults, and the lines
of any such values, in any order, are a file that gives them.
-/
theorem settings_survive_file :
    (∀ (settings : Settings) (path : String) (tree : FileTree), settings.validate = .ok () →
      tree.readText path = .ok settings.toText →
        (Settings.load FileTree.access path).run tree =
          (.ok { settings with path := some path }, tree)) ∧
    (∀ (settings : Settings) (path : String) (tree changed : FileTree),
      settings.validate = .ok () →
      (Settings.save FileTree.access settings path).run tree = (.ok (), changed) →
        (Settings.load FileTree.access path).run changed =
          (.ok { settings with path := some path }, changed)) ∧
    (∀ (settings : Settings) (path : String) (tree changed : FileTree),
      (Settings.save FileTree.access settings path).run tree = (.ok (), changed) ↔
        ∃ made : FileTree,
          FileTree.makeDirectories (FilePath.parent path) tree = (.ok (), made) ∧
          made.writeBytes path (FileTree.bytesOf settings.toText) = .ok changed) ∧
    (∀ (selection : Selection) (text path : String) (tree : FileTree), selection.Valid →
      selection.GivenBy text → tree.readText path = .ok text →
        (Settings.load FileTree.access path).run tree =
          (.ok { selection.onto {} with path := some path }, tree)) ∧
    ∀ (selection : Selection) (lines : List Line), selection.Valid →
      lines.Perm selection.lines → selection.GivenBy (String.join (lines.map (·.toText))) :=
  ⟨fun _ _ _ => Settings.load_toText, fun _ _ _ _ => Settings.load_of_save,
    fun _ _ _ _ => Settings.run_save_eq_ok_iff, fun _ _ _ _ => Settings.load_of_givenBy,
    fun _ _ valid anyOrder => Selection.givenBy_of_perm valid anyOrder⟩

/-- Values for two settings. -/
def quietSelection : Selection
  | .maxRetries => some 3
  | .logLevel => some "warn"
  | _ => none

/-- A directory with one file. -/
def rcTree (text : String) : FileTree :=
  ⟨[], [("rc", .file (FileTree.bytesOf text))]⟩

theorem writeBytes_rcTree (text : String) :
    FileTree.empty.writeBytes "rc" (FileTree.bytesOf text) = .ok (rcTree text) := by
  unfold rcTree
  generalize FileTree.bytesOf text = bytes
  cbv

theorem readText_rcTree (text : String) : (rcTree text).readText "rc" = .ok text :=
  FileTree.readText_of_writeBytes (writeBytes_rcTree text)

/--
The text of the defaults, settings that are saved where no file was, and a file with two lines in
another order.
-/
theorem settings_survive_file_quiet :
    (Settings.load FileTree.access "rc").run (rcTree ({} : Settings).toText) =
      (.ok { path := some "rc" }, rcTree ({} : Settings).toText) ∧
    (Settings.load FileTree.access "rc").run (rcTree (quietSelection.onto {}).toText) =
      (.ok { path := some "rc", maxRetries := 3, logLevel := "warn" },
        rcTree (quietSelection.onto {}).toText) ∧
    (Settings.load FileTree.access "rc").run
        (rcTree (Settings.line "log_level" "\"warn\"" ++ Settings.line "max_retries" "3")) =
      (.ok { path := some "rc", maxRetries := 3, logLevel := "warn" },
        rcTree (Settings.line "log_level" "\"warn\"" ++ Settings.line "max_retries" "3")) := by
  obtain ⟨loadText, loadSaved, saves, loadGiven, given⟩ := settings_survive_file
  have valid : quietSelection.Valid := Selection.validate_onto_default.1 (by decide)
  have made : FileTree.makeDirectories (FilePath.parent "rc") FileTree.empty =
      (.ok (), FileTree.empty) := by cbv
  refine ⟨loadText {} "rc" _ (by decide) (readText_rcTree _), ?saved, ?given⟩
  case saved =>
    have saved := (saves (quietSelection.onto {}) "rc" FileTree.empty _).2
      ⟨_, made, writeBytes_rcTree (quietSelection.onto {}).toText⟩
    exact loadSaved _ "rc" FileTree.empty _ (by decide) saved
  case given =>
    have swapped := given quietSelection
      [Setting.logLevel.line "warn", Setting.maxRetries.line 3] valid (List.Perm.swap ..)
    exact loadGiven _ _ "rc" _ valid swapped (readText_rcTree _)

end PlanRunner
