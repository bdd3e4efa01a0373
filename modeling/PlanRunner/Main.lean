import PlanRunner.CommandLine.Program
import Std.Time.DateTime.Timestamp

/-!
# Command line

The outer layer of the program: it reaches the disk, the environment, the clock and the terminal.
-/

namespace PlanRunner.Main

/-- What is wrong with a file by the code of the system, which comes with either sign. -/
def fileErrorOf (code : UInt32) (text : String) : FileError :=
  let code := min code (0 - code)
  if code = 2 then .notFound
  else if code = 17 then .alreadyExists
  else if code = 20 then .notDirectory
  else if code = 21 then .isDirectory
  else if code = 36 then .nameTooLong
  else .other text

/-- What is wrong with a file by the error that was thrown. -/
def fileError (error : IO.Error) : FileError :=
  match error with
  | .noFileOrDirectory _ code _ => fileErrorOf code (toString error)
  | .alreadyExists _ code _ => fileErrorOf code (toString error)
  | .inappropriateType _ code _ => fileErrorOf code (toString error)
  | .invalidArgument _ code _ => fileErrorOf code (toString error)
  | other => .other (toString other)

/-- Does something with a file, and tells what is wrong if it cannot be done. -/
def attempt {α : Type} (action : IO α) : IO (Except FileError α) := do
  try
    return .ok (← action)
  catch error =>
    return .error (fileError error)

/-- How the program reaches its files on a disk. -/
def disk : FileAccess IO where
  readText path := do
    match ← attempt (IO.FS.readBinFile path) with
    | .error error => return .error error
    | .ok bytes =>
        match String.fromUTF8? bytes with
        | some text => return .ok text
        | none => return .error .notText
  isThere path := do
    match ← attempt (IO.FS.realPath path) with
    | .ok _ => return true
    | .error _ => return false
  makeDirectories path :=
    if path.isEmpty then return .ok () else attempt (IO.FS.createDirAll path)
  writeText path text := attempt (IO.FS.writeFile path text)

/-- The variables of the environment that the program looks at. -/
def variableNames : List String :=
  [ "REWOO_ENABLE_REWOO", "REWOO_MAX_RETRIES", "REWOO_MAX_REPLANS", "REWOO_MAX_PARALLEL",
    "REWOO_STEP_TIMEOUT_SECS", "REWOO_LOG_LEVEL", Settings.fileVariable ]

/-- The values of the variables that are set. -/
def readVariables : IO Variables := do
  let entries ← variableNames.filterMapM fun name => do
    return (← IO.getEnv name).map fun value => (name, value)
  return fun name => List.lookup name entries

/-- A byte with two digits to the base sixteen. -/
def hexByte (byte : UInt8) : String :=
  let digits := Nat.toDigits 16 byte.toNat
  String.ofList (List.replicate (2 - digits.length) '0' ++ digits)

/-- A random identifier in five groups of digits to the base sixteen. -/
def newRunId : IO String := do
  let bytes := (← IO.getRandomBytes 16).toList.zipIdx.map fun (byte, position) =>
    if position = 6 then 0x40 + byte % 0x10
    else if position = 8 then 0x80 + byte % 0x40
    else byte
  let group (start size : Nat) : String :=
    String.join (((bytes.drop start).take size).map hexByte)
  return String.intercalate "-" [group 0 4, group 4 2, group 6 2, group 8 2, group 10 6]

/-- The time of the clock. -/
def now : IO Timestamp := do
  let time ← Std.Time.Timestamp.now
  let nanoseconds := time.toNanosecondsSinceUnixEpoch.val
  return ⟨nanoseconds / 1000000000, (nanoseconds % 1000000000).toNat⟩

def logLine (entry : LogEntry) : String :=
  entry.level.name ++ " " ++ entry.message ++
    String.join (entry.fields.map fun (name, value) => " " ++ name ++ "=" ++ value.compact)

end PlanRunner.Main

open PlanRunner in
/-- Answers to the arguments of the program. -/
def main (arguments : List String) : IO UInt32 := do
  let world : CommandLine.World IO :=
    { files := Main.disk
      environment := ← Main.readVariables
      home := ← IO.getEnv "HOME"
      runId := ← Main.newRunId
      startedAt := ← Main.now }
  let output ← CommandLine.answer world arguments
  for entry in output.log do
    IO.eprintln (Main.logLine entry)
  IO.print output.text
  if let some error := output.error then
    IO.eprintln error
  return output.code
