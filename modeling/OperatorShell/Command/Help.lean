import OperatorShell.Command.Definition
import OperatorShell.Command.Id
import OperatorShell.Text.Layout

/-!
# Help texts

The help of a command names its usage, says what it does and lists its subcommands,
arguments and options.  Hidden subcommands do not appear.
-/

namespace OperatorShell.Command

open Text

variable {σ : Type}

/-- A row of a help section: a label and what it means. -/
abbrev HelpRow := String × String

/-- A titled section with one line a row, or nothing without rows. -/
def helpSection (title : String) (rows : List HelpRow) : List String :=
  if rows.isEmpty then []
  else
    let column := columnWidth (rows.map Prod.fst)
    "" :: (title ++ ":") :: rows.map fun row =>
      trimEndText ("  " ++ padEnd column row.1 ++ "  " ++ row.2)

namespace Argument

/-- The argument in a usage line. -/
def usage (argument : Argument σ) : String :=
  if argument.required then " <" ++ argument.name ++ ">"
  else " [" ++ argument.name ++ "]"

end Argument

namespace OptionSpec

/-- The option as the operator types it. -/
def label (option : OptionSpec σ) : String :=
  let keys :=
    match option.short with
    | some short => "-" ++ String.singleton short ++ ", --" ++ option.name
    | none => "    --" ++ option.name
  if option.takesValue then keys ++ " <value>" else keys

end OptionSpec

/-- The usage line of a command. -/
def usageLine (command : Command σ) (id : String) (store : σ) : String :=
  let group := if (command.enabledSubcommands store).isEmpty then "" else " <command>"
  "Usage: " ++ usage id ++ group ++
    String.join (command.arguments.map Argument.usage) ++ " [options]"

/-- The help text of the command with the given id. -/
def helpText (command : Command σ) (id : String) (store : σ) : String :=
  let long :=
    match command.longDescription with
    | some text => ["", text]
    | none => []
  let subcommands := (command.enabledSubcommands store).map fun child =>
    (child.name, child.description)
  let arguments := command.arguments.map fun argument =>
    (argument.name, argument.description.getD "")
  let options := command.options.map fun option =>
    (option.label, option.description.getD "")
  "\n".intercalate
    ([command.usageLine id store, "", command.description] ++ long ++
      helpSection "Commands" subcommands ++
      helpSection "Arguments" arguments ++
      helpSection "Options" (options ++ [("-h, --help", "Show this help")]))

end OperatorShell.Command
