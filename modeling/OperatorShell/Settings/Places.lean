import OperatorShell.Text.Path

/-!
# Where the shell keeps its files

The places of the settings, the history and the logs when nothing else is set.
-/

namespace OperatorShell

open Text

/-- Default places of files. -/
structure Places where
  configFile : Option String
  historyFile : Option String
  logDir : Option String
  deriving DecidableEq, Repr

namespace Places

/-- A directory that has been chosen, or the usual one below the home directory.  A
choice counts only when it is an absolute path. -/
def directory (chosen home : Option String) (below : String) : Option String :=
  match chosen.filter fun path => path.toList.head? == some '/' with
  | some path => some path
  | none => (home.filter (· != "")).map (joinPath · below)

/-- The places below the directories for settings and for data. -/
def ofDirectories (settings data : Option String) : Places :=
  let inData (name : String) := data.map fun data => joinPath (joinPath data "opsh") name
  { configFile := settings.map fun settings =>
      joinPath (joinPath settings "opsh") "config.toml"
    historyFile := inData "history.json"
    logDir := inData "logs" }

/-- The places that follow from the home directory and from directories chosen in its
stead. -/
def ofEnvironment (home settings data : Option String) : Places :=
  ofDirectories (directory settings home ".config") (directory data home ".local/share")

end Places

end OperatorShell
