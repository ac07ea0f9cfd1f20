/-!
# Options of the program

What the program can be told when it is started: its options, what they are called,
and the ways in which the words of a start can be wrong.
-/

namespace OperatorShell.CommandLine

/-- An option that the program knows. -/
inductive Flag where
  | config | historyFile | noHistory | logLevel | logDir | command | help | version
  deriving DecidableEq, Repr

/-- What a help text is about. -/
inductive Topic where
  | program
  /-- The subcommand that prints completions. -/
  | complete
  /-- The subcommand that prints help. -/
  | help
  deriving DecidableEq, Repr

/-- What is wrong with the words of a start. -/
inductive UsageError where
  | unexpectedArgument (word : String)
  | unknownSubcommand (word : String)
  | missingValue (flag : Flag)
  | unexpectedValue (value : String) (flag : Flag)
  | repeated (flag : Flag)
  | conflict (flag other : Flag)
  /-- The text to complete is not there. -/
  | missingLine
  deriving DecidableEq, Repr

/-- Why the program ends before it has started. -/
inductive Stop where
  | help (topic : Topic)
  | version
  | misuse (error : UsageError)
  deriving DecidableEq, Repr

/-- What the program is told to do. -/
structure Options where
  config : Option String
  historyFile : Option String
  noHistory : Bool
  logLevel : Option String
  logDir : Option String
  /-- A line to run. -/
  command : Option String
  /-- A text to complete; it goes before a line to run. -/
  completion : Option String
  deriving DecidableEq, Repr

namespace Flag

/-- All options in the order in which help lists them. -/
def all : List Flag :=
  [.config, .historyFile, .noHistory, .logLevel, .logDir, .command, .help, .version]

/-- Name after two dashes. -/
def long : Flag → String
  | .config => "config"
  | .historyFile => "history-file"
  | .noHistory => "no-history"
  | .logLevel => "log-level"
  | .logDir => "log-dir"
  | .command => "command"
  | .help => "help"
  | .version => "version"

/-- Name after one dash. -/
def short? : Flag → Option Char
  | .command => some 'c'
  | .help => some 'h'
  | .version => some 'V'
  | _ => none

/-- What the value of an option is called, for options that take one. -/
def valueName? : Flag → Option String
  | .config | .historyFile => some "FILE"
  | .logLevel => some "FILTER"
  | .logDir => some "DIR"
  | .command => some "LINE"
  | _ => none

/-- Whether the value is a path, which cannot be empty. -/
def isPath : Flag → Bool
  | .config | .historyFile | .logDir => true
  | _ => false

/-- The option as messages show it. -/
def label (flag : Flag) : String :=
  match flag.valueName? with
  | some name => "--" ++ flag.long ++ " <" ++ name ++ ">"
  | none => "--" ++ flag.long

/-- What help says about an option. -/
def description : Flag → String
  | .config => "Config file (TOML, or JSON by extension)"
  | .historyFile => "History file"
  | .noHistory => "Keep history in memory only"
  | .logLevel => "Log filter, e.g. `debug` or `opsh_core=trace`"
  | .logDir => "Directory for log files"
  | .command => "Run one line and exit"
  | .help => "Print help"
  | .version => "Print version"

end Flag

end OperatorShell.CommandLine
