import OperatorShell.CommandLine.Parse
import OperatorShell.CommandLine.Usage
import OperatorShell.Session.Basic
import OperatorShell.Settings.File
import OperatorShell.Sites.Commands

/-!
# The program

What the program does with the words of its start: it loads the settings, makes the
directory for the logs, and then prints completions, runs one line or serves the
operator until the input is closed.  What it needs from its surroundings comes through
a `World`, so that the same program runs over real files and over any other ones.
-/

namespace OperatorShell

open CommandLine Sites

/-- What the program needs from its surroundings. -/
structure World (m : Type → Type) where
  /-- The terminal of the operator. -/
  device : Device
  /-- What is at a path. -/
  look : String → m Disk
  /-- Make a directory where nothing stands in the way. -/
  makeDirectory : String → m Unit
  /-- The keys that the operator types. -/
  keys : m (List Keys.KeyEvent)
  /-- Put a text into a file. -/
  write : String → String → m Unit

/-- How the program ends. -/
structure Exit where
  code : Nat
  /-- What it has printed. -/
  output : String
  /-- What it has to say about a failure. -/
  complaint : String
  deriving DecidableEq, Repr

namespace Exit

/-- An end at which all is well. -/
def success (output : String) : Exit := ⟨0, output, ""⟩

/-- The end after a failure of the program itself. -/
def failure (message : String) : Exit :=
  ⟨1, "", programName ++ ": " ++ message ++ "\n"⟩

/-- The end of a program that has not started. -/
def ofStop : Stop → Exit
  | .help topic => success topic.text
  | .version => success versionText
  | .misuse error => ⟨2, "", error.complaint⟩

/-- The end after a conversation with the operator. -/
def ofResult (result : Except ReadError Nat) (output : String) : Exit :=
  match result with
  | .ok code => ⟨code, output, ""⟩
  | .error (.fault reason) =>
      { failure ("Terminal I/O failed: " ++ reason.message) with output := output }
  | .error error => ⟨error.exitCode, output, ""⟩

end Exit

namespace CommandLine.Options

/-- The file of the history: none, the one that the operator names, the one in the
settings, or the default one. -/
def historyPlace (options : Options) (places : Places) (settings : Settings) :
    Option String :=
  if options.noHistory then none
  else options.historyFile <|> settings.historyFile <|> places.historyFile

/-- The settings with what the operator says about them. -/
def apply (options : Options) (places : Places) (settings : Settings) : Settings :=
  { settings with
    historyFile := options.historyPlace places settings
    logLevel := options.logLevel.getD settings.logLevel
    logDir := options.logDir <|> settings.logDir <|> places.logDir }

end CommandLine.Options

namespace Program

/-- A candidate in JSON. -/
def candidateJson (candidate : Candidate) : List Char :=
  let description :=
    match candidate.description with
    | some description => [("description", Json.encode description.toList)]
    | none => []
  Json.objectOf 1 (("value", Json.encode candidate.value.toList) :: description)

/-- Candidates in JSON, with the end of the line. -/
def candidatesJson (candidates : List Candidate) : String :=
  String.ofList (Json.arrayOf 0 (candidates.map candidateJson)) ++ "\n"

/-- Print what can follow a text. -/
def complete (registry : Command.Registry Inventory) (line : String) : Exit :=
  match (Command.complete registry line Inventory.initial).1 with
  | .ok candidates => .success (candidatesJson candidates)
  | .error error => .failure error.message

/-- The session at the start, with the history of a file if there is one. -/
def startSession {device : Device} (settings : Settings) (disk : Option Disk)
    (keys : List Keys.KeyEvent) : Session Inventory device :=
  { console := .ofKeys keys
    history :=
      match disk with
      | some disk => .load disk settings.historyLimit
      | none => .inMemory settings.historyLimit
    disk := disk.getD .missing
    store := .initial }

/-- What has been printed in a session. -/
def printed {device : Device} (session : Session Inventory device) : String :=
  session.console.display.screen.render

/-- Run one line without a raw mode.  Its questions find the input closed. -/
def runLine (device : Device) (shell : Shell Inventory) (line : String) : Exit :=
  let before : Session Inventory device.headless :=
    startSession shell.settings none []
  let (result, session) := shell.runOnce line before
  .ofResult (result.map fun well => if well then 0 else 1) (printed session)

variable {m : Type → Type} [Monad m]

/-- Serve the operator, and keep the history in its file. -/
def serve (world : World m) (shell : Shell Inventory) : m Exit := do
  let place := shell.settings.historyFile
  let disk ←
    match place with
    | some path => some <$> world.look path
    | none => pure none
  let keys ← world.keys
  let before : Session Inventory world.device :=
    startSession shell.settings disk keys
  let (result, after) := shell.run before
  match place, after.disk with
  | some path, .file content =>
      if after.disk ≠ before.disk then world.write path content
  | _, _ => pure ()
  return .ofResult (result.map fun _ => 0) (printed after)

/-- Do what the options say. -/
def perform (world : World m) (options : Options) (settings : Settings) : m Exit :=
  match Sites.registry with
  | .error error =>
      return .failure ("Failed to build command catalog: " ++ error.message)
  | .ok registry =>
      match options.completion, options.command with
      | some line, _ => return complete registry line
      | none, some line => return runLine world.device ⟨registry, settings⟩ line
      | none, none => serve world ⟨registry, settings⟩

/-- Make the directory for the logs; the result is why that cannot be done. -/
def prepareLogs (world : World m) (settings : Settings) : m (Option String) := do
  match settings.logDir with
  | none => return none
  | some path =>
      match (← world.look path).directoryProblem? with
      | some reason =>
          return some ("Failed to create log directory: " ++ path ++ ": " ++ reason)
      | none =>
          world.makeDirectory path
          return none

/-- Run the program with the words of its start. -/
def run (world : World m) (places : Places) (words : List String) : m Exit := do
  match CommandLine.parse words with
  | .error stop => return .ofStop stop
  | .ok options =>
      match ← Settings.load world.look places options.config with
      | .error error => return .failure error.describe
      | .ok loaded =>
          let settings := options.apply places loaded
          match ← prepareLogs world settings with
          | some message => return .failure message
          | none => perform world options settings

end Program

end OperatorShell
