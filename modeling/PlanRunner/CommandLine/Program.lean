import PlanRunner.CommandLine.Arguments
import PlanRunner.Graph.Cycle
import PlanRunner.Json.Printer
import PlanRunner.Run.Log
import PlanRunner.Run.Rehearsal
import PlanRunner.Settings.Store
import PlanRunner.Wire.Report

/-!
# The program

What the program answers to its arguments: it loads the settings, reads the plan and prints a text.
-/

namespace PlanRunner.CommandLine

/-- What the program prints, and the code that it ends with. -/
structure Output where
  code : UInt32 := 0
  text : String := ""
  error : Option String := none
  log : List LogEntry := []

/-- The name and the version of the program. -/
def versionText : String := "rewoo-engine 0.1.0\n"

/-- How the program is used. -/
def helpText : String :=
  String.intercalate "\n"
    [ "Validate and dry-run ReWOO execution plans.",
      "",
      "Usage: rewoo-engine [OPTIONS] <COMMAND>",
      "",
      "Commands:",
      "  check    Validate a plan file and print its execution layers",
      "  dry-run  Execute a plan against an echo invoker and print the result",
      "  config   Print the effective configuration as TOML",
      "  help     Print this message",
      "",
      "Options:",
      "      --config <CONFIG>  Config file to use instead of the default lookup",
      "  -v, --verbose          Log at debug level regardless of config",
      "  -h, --help             Print help",
      "  -V, --version          Print version",
      "" ]

/-- Ends the program with an error. -/
def fail (message : String) : Output :=
  { code := 1, error := some ("Error: " ++ message) }

/-- The world that a program runs in. -/
structure World (m : Type → Type) where
  files : FileAccess m
  environment : Variables
  home : Option String
  runId : String
  startedAt : Timestamp

/-- A plan in the text of a file, which has to be valid. -/
def planOf (text : String) : Except String Plan :=
  match Reader.ofText Plan.read text with
  | .error _ => .error "Failed to parse plan"
  | .ok plan =>
      match plan.validate with
      | .error error => .error (RunError.plan error).message
      | .ok () => .ok plan

/-- A line for each layer of a graph, counted from a number on. -/
def layerLines : Nat → List (List String) → String
  | _, [] => ""
  | number, layer :: rest =>
      "  batch " ++ toString number ++ ": " ++ String.intercalate ", " layer ++ "\n" ++
        layerLines (number + 1) rest

/-- The layers of a plan, and its first cycle if there is one. -/
def checkText (plan : Plan) : String :=
  "plan " ++ plan.id ++ " (" ++ toString plan.steps.length ++ " steps)\n" ++
    layerLines 1 plan.graph.layers ++
    match plan.graph.findCycle with
    | some cycle =>
        "  cycle: " ++ String.intercalate " -> " cycle ++ " (these steps can never run)\n"
    | none => ""

/-- The levels that are logged at a level, which is one of the settings. -/
def isLogged (limit : String) (level : LogLevel) : Bool :=
  match limit with
  | "trace" | "debug" => true
  | "info" => level ≠ .debug
  | "warn" => level = .warn
  | _ => false

/-- Runs a plan with tools that give their arguments back. -/
def dryRun {m : Type → Type} (world : World m) (settings : Settings) (verbose : Bool) (plan : Plan)
    (input : String) : Output :=
  let run := plan.dryRun settings input world.runId world.startedAt
  let limit := if verbose then "debug" else settings.logLevel
  let log := (run.log settings true).filter fun entry => isLogged limit entry.level
  match run.outcome with
  | .ok report => { text := report.toJson.pretty ++ "\n", log }
  | .error error => { fail error.message with log }

variable {m : Type → Type} [Monad m]

def readPlan (world : World m) (path : String) : m (Except String Plan) := do
  match ← world.files.readText path with
  | .error _ => return .error ("Failed to read plan file " ++ path)
  | .ok text => return planOf text

/-- Carries out a command. -/
def perform (world : World m) (settings : Settings) (verbose : Bool) :
    Command → m Output
  | .config => return { text := settings.toText }
  | .check path => do
      match ← readPlan world path with
      | .ok plan => return { text := checkText plan }
      | .error message => return fail message
  | .dryRun path input => do
      match ← readPlan world path with
      | .ok plan => return dryRun world settings verbose plan input
      | .error message => return fail message

/-- Loads the settings from the file that is given, or else from where they are by default. -/
def loadSettings (world : World m) : Option String → m (Except SettingsError Settings)
  | some path => Settings.load world.files path
  | none => Settings.loadOrDefault world.files world.environment world.home

def answer (world : World m) (arguments : List String) : m Output := do
  match request arguments with
  | .version => return { text := versionText }
  | .help => return { text := helpText }
  | .misuse message => return { code := 2, error := some ("error: " ++ message) }
  | .invoke invocation =>
      match ← loadSettings world invocation.config with
      | .error error => return fail error.message
      | .ok settings => perform world settings invocation.verbose invocation.command

end PlanRunner.CommandLine
