/-!
# Arguments

The program takes a command, with a plan for some commands, and options anywhere. An option has a
long name after two dashes, and perhaps a letter after one. Its value follows, or is attached to it.
-/

namespace PlanRunner.CommandLine

/-- What the program is asked to do. -/
inductive Command where
  /-- Validate a plan and show its layers. -/
  | check (plan : String)
  /-- Run a plan with tools that give their arguments back. -/
  | dryRun (plan input : String)
  /-- Show the settings. -/
  | config
  deriving DecidableEq, Repr

/-- A command with the options that all commands share. -/
structure Invocation where
  config : Option String
  verbose : Bool
  command : Command
  deriving DecidableEq, Repr

/-- What the arguments come to. -/
inductive Request where
  | invoke (invocation : Invocation)
  | version
  | help
  | misuse (message : String)
  deriving DecidableEq, Repr

/-- The options of the program. -/
inductive Switch where
  | config
  | verbose
  | input
  | version
  | help
  deriving DecidableEq, Repr

def Switch.hasValue : Switch → Bool
  | .config | .input => true
  | .verbose | .version | .help => false

/-- Whether a value may not be empty. -/
def Switch.isPath : Switch → Bool
  | .config => true
  | _ => false

/-- Where arguments stand: before the command, or behind one. -/
inductive Place where
  | program
  | check
  | dryRun
  | config
  deriving DecidableEq, Repr

namespace Place

def long? (place : Place) (name : String) : Option Switch :=
  match name with
  | "config" => some .config
  | "verbose" => some .verbose
  | "help" => some .help
  | "version" => if place = .program then some .version else none
  | "input" => if place = .dryRun then some .input else none
  | _ => none

def short? (place : Place) (letter : Char) : Option Switch :=
  match letter with
  | 'v' => some .verbose
  | 'h' => some .help
  | 'V' => if place = .program then some .version else none
  | 'i' => if place = .dryRun then some .input else none
  | _ => none

def takesPlan : Place → Bool
  | .check | .dryRun => true
  | .program | .config => false

end Place

/-- The arguments at one place, as far as they have been read. -/
structure Given where
  config : Option String := none
  verbose : Bool := false
  input : Option String := none
  plan : Option String := none
  deriving DecidableEq, Repr

/-- Why reading arguments ends before their end. -/
inductive Interruption where
  | version
  | help
  | misuse (message : String)
  deriving DecidableEq, Repr

def Interruption.request : Interruption → Request
  | .version => .version
  | .help => .help
  | .misuse message => .misuse message

/-- Stops at wrong arguments. -/
def misuse {α : Type} (message : String) : Except Interruption α :=
  .error (.misuse message)

namespace Given

/-- Whether an option was given before. -/
def has (given : Given) : Switch → Bool
  | .config => given.config.isSome
  | .verbose => given.verbose
  | .input => given.input.isSome
  | .version | .help => false

/-- Takes an option with its value. An option may be given only once. -/
def take (given : Given) (switch : Switch) (value : String) : Except Interruption Given :=
  if switch.isPath && value.isEmpty then misuse "a value is required but none was supplied"
  else if given.has switch then misuse "an argument cannot be used multiple times"
  else
    match switch with
    | .config => .ok { given with config := some value }
    | .verbose => .ok { given with verbose := true }
    | .input => .ok { given with input := some value }
    | .version => .error .version
    | .help => .error .help

def takePlan (given : Given) (place : Place) (name : String) : Except Interruption Given :=
  if !place.takesPlan || given.plan.isSome then
    misuse ("unexpected argument '" ++ name ++ "' found")
  else if name.isEmpty then misuse "a value is required for '<PLAN>' but none was supplied"
  else .ok { given with plan := some name }

def takePlans (given : Given) (place : Place) : List String → Except Interruption Given
  | [] => .ok given
  | name :: rest => do (← given.takePlan place name).takePlans place rest

/-- Takes letters of options, and tells the last one if its value is still to come. -/
def takeLetters (given : Given) (place : Place) :
    List Char → Except Interruption (Given × Option Switch)
  | [] => .ok (given, none)
  | letter :: rest =>
      match place.short? letter with
      | none => misuse ("unexpected argument '-" ++ letter.toString ++ "' found")
      | some switch =>
          if switch.hasValue then
            match rest with
            | [] => .ok (given, some switch)
            | '=' :: value => do return (← given.take switch (String.ofList value), none)
            | value => do return (← given.take switch (String.ofList value), none)
          else do (← given.take switch "").takeLetters place rest

/-- Takes a long name with what is attached to it, and tells it if its value is still to come. -/
def takeLong (given : Given) (place : Place) (characters : List Char) :
    Except Interruption (Given × Option Switch) :=
  let name := String.ofList (characters.takeWhile (· ≠ '='))
  match place.long? name, characters.dropWhile (· ≠ '=') with
  | none, _ => misuse ("unexpected argument '--" ++ name ++ "' found")
  | some switch, [] =>
      if switch.hasValue then .ok (given, some switch)
      else do return (← given.take switch "", none)
  | some switch, _ :: value =>
      if switch.hasValue then do return (← given.take switch (String.ofList value), none)
      else misuse ("unexpected value for '--" ++ name ++ "' found")

end Given

/-- What an argument looks like. -/
inductive Shape where
  | separator
  | long (characters : List Char)
  | short (letters : List Char)
  | plain
  deriving DecidableEq, Repr

/-- What an argument looks like; a single dash is plain. -/
def Shape.of (argument : String) : Shape :=
  match argument.toList with
  | ['-', '-'] => .separator
  | '-' :: '-' :: characters => .long characters
  | '-' :: letter :: rest => .short (letter :: rest)
  | _ => .plain

/--
Reads arguments at a place, given the option whose value is still to come, up to the end or, before
the command, up to the first plain one, which is the name of the command.
-/
def readAt (place : Place) :
    Option Switch → List String → Given →
      Except Interruption (Given × Option (String × List String))
  | some _, [], _ => misuse "a value is required but none was supplied"
  | none, [], given => .ok (given, none)
  | waiting, argument :: rest, given =>
      match Shape.of argument, waiting with
      | .plain, some switch => do readAt place none rest (← given.take switch argument)
      | _, some _ => misuse "a value is required but none was supplied"
      | .separator, none => do return (← given.takePlans place rest, none)
      | .long characters, none => do
          let (given, waiting) ← given.takeLong place characters
          readAt place waiting rest given
      | .short letters, none => do
          let (given, waiting) ← given.takeLetters place letters
          readAt place waiting rest given
      | .plain, none =>
          if place = .program then .ok (given, some (argument, rest))
          else do readAt place none rest (← given.takePlan place argument)

def place? (name : String) : Option Place :=
  match name with
  | "check" => some .check
  | "dry-run" => some .dryRun
  | "config" => some .config
  | _ => none

/-- What is said about a command that does not exist. -/
def unknownCommand (name : String) : String :=
  "unrecognized subcommand '" ++ name ++ "'"

/-- Help is given on the program or on one of its commands, which have no commands of their own. -/
def explain {α : Type} : List String → Except Interruption α
  | [] => .error .help
  | name :: more =>
      if name = "help" ∨ (place? name).isSome then
        match more with
        | [] => .error .help
        | name :: _ => misuse (unknownCommand name)
      else misuse (unknownCommand name)

def Given.command (given : Given) (place : Place) : Except Interruption Command :=
  match place, given.plan with
  | .config, _ => .ok .config
  | .check, some plan => .ok (.check plan)
  | .dryRun, some plan => .ok (.dryRun plan (given.input.getD ""))
  | .program, _ => misuse "a command is required"
  | _, none => misuse "the following required arguments were not provided: <PLAN>"

/-- Reads all arguments. Options behind the command win over those before it. -/
def readAll (arguments : List String) : Except Interruption Invocation := do
  match ← readAt .program none arguments {} with
  | (_, none) => misuse "a command is required"
  | (_, some ("help", names)) => explain names
  | (before, some (name, rest)) =>
      match place? name with
      | none => misuse (unknownCommand name)
      | some place => do
          let (given, _) ← readAt place none rest {}
          let command ← given.command place
          return { config := given.config <|> before.config
                   verbose := given.verbose || before.verbose
                   command }

def request (arguments : List String) : Request :=
  match readAll arguments with
  | .ok invocation => .invoke invocation
  | .error interruption => interruption.request

end PlanRunner.CommandLine
