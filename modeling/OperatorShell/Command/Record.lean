import OperatorShell.Command.Definition
import OperatorShell.Text.Record

/-!
# Command definitions in a log

A definition is shown with its names and with whether its parts are there.  Code and
descriptions are left out.
-/

namespace OperatorShell.Command

open Text

variable {σ : Type}

/-- An argument in a log. -/
def Argument.show (argument : Argument σ) : String :=
  showRecord "ArgumentDef"
    [("name", quoted argument.name), ("required", showBool argument.required),
     ("provider", showBool argument.provider.isSome),
     ("validator", showBool argument.validator.isSome)]

/-- An option in a log. -/
def OptionSpec.show (option : OptionSpec σ) : String :=
  showRecord "OptionDef"
    [("name", quoted option.name), ("short", showOption (option.short.map quotedSingle)),
     ("takes_value", showBool option.takesValue)]

mutual

/-- A command with its subcommands in a log. -/
def «show» : Command σ → String
  | ⟨name, _, _, arguments, options, _, body, subcommands⟩ =>
      showRecord "CommandDefinition"
        [("name", quoted name),
         ("arguments", showList (arguments.map Argument.show)),
         ("options", showList (options.map OptionSpec.show)),
         ("subcommands", showList (showAll subcommands)),
         ("executable", showBool body.isSome)]

/-- Commands of one level in a log. -/
def showAll : List (Command σ) → List String
  | [] => []
  | command :: rest => command.show :: showAll rest

end

end OperatorShell.Command
