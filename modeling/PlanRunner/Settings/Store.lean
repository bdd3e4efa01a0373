import PlanRunner.Files.Access
import PlanRunner.Settings.Overrides
import PlanRunner.Settings.Text

/-!
# Stored settings

Settings are loaded from a file and saved to one. Without a file of their own they come from the
file that the environment names, else from the one in the home directory, else from the defaults,
and variables of the environment take the place of single settings.
-/

namespace PlanRunner

/-- Why settings cannot be loaded or saved. -/
inductive SettingsError where
  | load (path text : String)
  | invalid (flaw : Settings.Flaw)
  | file (error : FileError)
  deriving DecidableEq, Repr

/-- The text for why settings cannot be loaded or saved. -/
def SettingsError.message : SettingsError → String
  | .load path text => "config: failed to load config: " ++ path ++ ": " ++ text
  | .invalid flaw => "config: validation failed: " ++ flaw.message
  | .file error => "config: io: " ++ error.message

namespace Settings

variable {m : Type → Type} [Monad m]

def checked (settings : Settings) : Except SettingsError Settings :=
  match settings.validate with
  | .ok () => .ok settings
  | .error flaw => .error (.invalid flaw)

def ofFile (path text : String) : Except SettingsError Settings :=
  match ofText text with
  | .ok settings => { settings with path := some path }.checked
  | .error error => .error (.load path error)

def load (files : FileAccess m) (path : String) : m (Except SettingsError Settings) := do
  match ← files.readText path with
  | .ok text => return ofFile path text
  | .error error => return .error (.file error)

/-- The variable that names a file with settings. -/
def fileVariable : String := "REWOO_ENGINE_CONFIG"

/-- The file that settings come from unless another one is given. -/
def defaultPath? (environment : Variables) (home : Option String) : Option String :=
  match (environment fileVariable).filter (!Text.isBlankText ·) with
  | some raw => some (FilePath.expandHome home (Text.trim raw))
  | none =>
      home.map fun home => FilePath.join (FilePath.join home ".rewoo-engine") "config.toml"

/-- Settings with variables of the environment applied to them. -/
def finish (environment : Variables) (settings : Settings) : Except SettingsError Settings :=
  (settings.override environment).checked

/-- Loads settings from the default file, if it is there, and applies the environment to them. -/
def loadOrDefault (files : FileAccess m) (environment : Variables) (home : Option String) :
    m (Except SettingsError Settings) := do
  match defaultPath? environment home with
  | some path =>
      if ← files.isThere path then
        return (← load files path).bind (finish environment)
      else return finish environment {}
  | none => return finish environment {}

/-- Saves settings to a file, and makes the directories that it stands in. -/
def save (files : FileAccess m) (settings : Settings) (path : String) :
    m (Except SettingsError Unit) := do
  match ← files.makeDirectories (FilePath.parent path) with
  | .error error => return .error (.file error)
  | .ok () =>
      match ← files.writeText path settings.toText with
      | .error error => return .error (.file error)
      | .ok () => return .ok ()

end Settings

end PlanRunner
