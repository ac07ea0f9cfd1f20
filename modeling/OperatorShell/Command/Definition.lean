import OperatorShell.Command.Invocation
import OperatorShell.Command.Script

/-!
# Command definitions

A catalog describes its commands as plain data over a store of type `σ`: names and
texts, arguments and options with their candidates and checks, a switch that hides a
command, a body and subcommands.
-/

namespace OperatorShell.Command

/-- Where the candidates of an argument or option come from.  The line being
completed is passed on, and the store may be changed on the way. -/
structure Provider (σ : Type) where
  /-- Milliseconds until the candidates are there. -/
  delay : String → σ → Nat
  candidates : String → σ → Except Failure (List Candidate) × σ

/-- A check of one value against the current store. -/
abbrev Validator (σ : Type) := σ → String → Except Failure Unit

/-- A positional argument. -/
structure Argument (σ : Type) where
  name : String
  description : Option String
  required : Bool
  provider : Option (Provider σ)
  validator : Option (Validator σ)

/-- A named option. -/
structure OptionSpec (σ : Type) where
  /-- Name after two dashes. -/
  name : String
  /-- Name after one dash. -/
  short : Option Char
  description : Option String
  /-- Whether the option takes the text after its key. -/
  takesValue : Bool
  provider : Option (Provider σ)
  validator : Option (Validator σ)

end Command

/-- A command and its subcommands. -/
structure Command (σ : Type) where
  name : String
  description : String
  longDescription : Option String
  arguments : List (Command.Argument σ)
  options : List (Command.OptionSpec σ)
  /-- Hides the command while it holds of the store. -/
  disabled : Option (σ → Bool)
  /-- A command without a body only groups its subcommands. -/
  body : Option (Command.Invocation → Command.Script σ Unit)
  subcommands : List (Command σ)

namespace Command

variable {σ : Type}

namespace Provider

/-- A provider that has a fixed list at once. -/
def ofList (candidates : List Candidate) : Provider σ where
  delay _ _ := 0
  candidates _ store := (.ok candidates, store)

end Provider

namespace OptionSpec

/-- Whether a key without its dashes names the option. -/
def answersTo (option : OptionSpec σ) (key : String) : Bool :=
  option.name == key || option.short.map String.singleton == some key

end OptionSpec

/-- A command with nothing but a name and a description. -/
def ofName (name description : String) : Command σ where
  name := name
  description := description
  longDescription := none
  arguments := []
  options := []
  disabled := none
  body := none
  subcommands := []

/-- Whether the command is hidden. -/
def isDisabled (command : Command σ) (store : σ) : Bool :=
  match command.disabled with
  | some check => check store
  | none => false

/-- The first option that a key without its dashes names. -/
def findOption? (command : Command σ) (key : String) : Option (OptionSpec σ) :=
  command.options.find? (·.answersTo key)

/-- The subcommands that are not hidden. -/
def enabledSubcommands (command : Command σ) (store : σ) : List (Command σ) :=
  command.subcommands.filter fun child => !child.isDisabled store

/-- The command as something to offer. -/
def candidate (command : Command σ) : Candidate :=
  ⟨command.name, some command.description⟩

end Command

end OperatorShell
