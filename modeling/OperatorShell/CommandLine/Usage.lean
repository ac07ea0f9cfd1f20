import OperatorShell.CommandLine.Basic
import OperatorShell.Text.Layout

/-!
# Help and messages of the program

The texts that the program prints when it ends before it has started.
-/

namespace OperatorShell.CommandLine

open Text

/-- The name under which the program is started. -/
def programName : String := "opsh"

/-- What the program prints about its version. -/
def versionText : String := "opsh_cli 0.1.0\n"

/-- A name in help and what it stands for. -/
abbrev UsageRow := String × String

/-- A section of help with a column of names. -/
def usageSection (title : String) (rows : List UsageRow) : String :=
  let column := columnWidth (rows.map Prod.fst)
  "\n" ++ title ++ ":\n" ++
    String.join (rows.map fun row =>
      "  " ++ padEnd column row.1 ++ "  " ++ row.2 ++ "\n")

/-- An option as a list of options shows it. -/
def Flag.row (flag : Flag) : UsageRow :=
  match flag.short? with
  | some short => ("-" ++ String.singleton short ++ ", " ++ flag.label, flag.description)
  | none => ("    " ++ flag.label, flag.description)

namespace Topic

/-- What a help text says first. -/
def summary : Topic → String
  | .program => "The opsh interactive command shell"
  | .complete => "Print completion candidates for LINE as JSON"
  | .help => "Print this message or the help of the given subcommand(s)"

/-- The words of a start. -/
def usage : Topic → String
  | .program => programName ++ " [OPTIONS] [COMMAND]"
  | .complete => programName ++ " complete <LINE>"
  | .help => programName ++ " help [COMMAND]..."

/-- The sections of a help text. -/
def sections : Topic → String
  | .program =>
      usageSection "Commands" [("complete", complete.summary), ("help", help.summary)] ++
        usageSection "Options" (Flag.all.map Flag.row)
  | .complete =>
      usageSection "Arguments" [("<LINE>", "Text left of the cursor")] ++
        usageSection "Options" [Flag.help.row]
  | .help =>
      usageSection "Arguments" [("[COMMAND]...", "Print help for the subcommand(s)")]

/-- A help text. -/
def text (topic : Topic) : String :=
  topic.summary ++ "\n\nUsage: " ++ topic.usage ++ "\n" ++ topic.sections

end Topic

namespace UsageError

/-- What is wrong, in one line. -/
def message : UsageError → String
  | .unexpectedArgument word => "unexpected argument '" ++ word ++ "' found"
  | .unknownSubcommand word => "unrecognized subcommand '" ++ word ++ "'"
  | .missingValue flag =>
      "a value is required for '" ++ flag.label ++ "' but none was supplied"
  | .unexpectedValue value flag =>
      "unexpected value '" ++ value ++ "' for '" ++ flag.label ++
        "' found; no more were expected"
  | .repeated flag =>
      "the argument '" ++ flag.label ++ "' cannot be used multiple times"
  | .conflict flag other =>
      "the argument '" ++ flag.label ++ "' cannot be used with '" ++ other.label ++ "'"
  | .missingLine => "the following required arguments were not provided:\n  <LINE>"

/-- The message with a word on where to find help. -/
def complaint (error : UsageError) : String :=
  "error: " ++ error.message ++ "\n\nFor more information, try '--help'.\n"

end UsageError

end OperatorShell.CommandLine
