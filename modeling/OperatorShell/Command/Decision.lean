import OperatorShell.Command.Item
import OperatorShell.Command.Registry

/-!
# What a clause asks for

Before anything runs, a clause is decided: it names a command and carries an
invocation for its body, or it asks for help, or it is refused.  Nothing here touches
the terminal or the store, so what a clause means can be told without running it.
-/

namespace OperatorShell.Command

open Line Text

variable {σ : Type}

/-- Why a clause is refused, or how its body failed. -/
inductive DispatchError where
  | resolve (error : ResolveError)
  | missingArguments (usage : String) (names : List String)
  | tooManyArguments (usage : String) (expected got : Nat)
  | missingOptionValue (option : String)
  | validation (target : String) (source : Failure)
  | execution (usage : String) (source : Failure)
  deriving DecidableEq, Repr

def DispatchError.message : DispatchError → String
  | .resolve error => error.message
  | .missingArguments usage names =>
      "missing required argument(s) for `" ++ usage ++ "`: " ++ ", ".intercalate names
  | .tooManyArguments usage expected got =>
      "too many arguments for `" ++ usage ++ "`: expected at most " ++
        toString expected ++ ", got " ++ toString got
  | .missingOptionValue option => "option --" ++ option ++ " requires a value"
  | .validation target source =>
      "invalid value for " ++ target ++ ": " ++ source.summary
  | .execution usage source => "`" ++ usage ++ "` failed: " ++ source.describe

/-- A resolved clause with its invocation. -/
structure Prepared (σ : Type) where
  resolution : Resolution σ
  invocation : Invocation
  helpRequested : Bool

/-- What is to be done for a clause. -/
inductive Decision (σ : Type) where
  /-- Show a help text. -/
  | help (id text : String)
  /-- Run the body of a command. -/
  | execute (invocation : Invocation) (script : Script σ Unit)

/-- Resolve a clause and read its items.  The text of the clause goes into the
invocation. -/
def prepare (registry : Registry σ) (store : σ) (clause : Clause) (text : String) :
    Except DispatchError (Prepared σ) :=
  match registry.resolve store clause.leadingWords with
  | .error error => .error (.resolve error)
  | .ok resolution =>
      match readItems resolution.command (clause.tokens.drop resolution.depth) with
      | .error option => .error (.missingOptionValue option)
      | .ok items =>
          .ok
            { resolution := resolution
              invocation :=
                { id := resolution.id
                  positional := Item.positionals items
                  options := Item.options items
                  line := text }
              helpRequested := Item.askForHelp items }

/-- The required arguments that no positional value covers. -/
def uncovered (command : Command σ) (invocation : Invocation) : List String :=
  ((command.arguments.drop invocation.positional.length).filter (·.required)).map
    (·.name)

/-- Refuse more positional values than arguments. -/
def checkCount (command : Command σ) (invocation : Invocation) :
    Except DispatchError Unit :=
  if command.arguments.length < invocation.positional.length then
    .error (.tooManyArguments (usage invocation.id) command.arguments.length
      invocation.positional.length)
  else .ok ()

/-- Refuse an invocation whose positional values do not fit the arguments. -/
def checkArguments (command : Command σ) (invocation : Invocation) :
    Except DispatchError Unit :=
  match uncovered command invocation with
  | [] => checkCount command invocation
  | names => .error (.missingArguments (usage invocation.id) names)

/-- Refuse words after a command that only groups subcommands: they look like a
subcommand that does not exist. -/
def checkGroupWords (command : Command σ) (invocation : Invocation) :
    Except DispatchError Unit :=
  match invocation.positional with
  | [] => .ok ()
  | word :: _ =>
      if command.subcommands.isEmpty then checkCount command invocation
      else
        .error (.resolve (.notFound (usage invocation.id ++ " " ++ word)))

/-- Check one value, if there is a check for it. -/
def checkValue (validator : Option (Validator σ)) (store : σ) (target value : String) :
    Except DispatchError Unit :=
  match validator with
  | none => .ok ()
  | some validator =>
      (validator store value).mapError (.validation target)

/-- Check the positional values against their arguments, in order. -/
def checkPositionals (store : σ) :
    List (Argument σ) → List String → Except DispatchError Unit
  | argument :: arguments, value :: values =>
      match checkValue argument.validator store ("<" ++ argument.name ++ ">") value with
      | .error error => .error error
      | .ok () => checkPositionals store arguments values
  | _, _ => .ok ()

/-- Check the values of the declared options, in the order of their declaration. -/
def checkOptions (store : σ) (options : OptionMap) :
    List (OptionSpec σ) → Except DispatchError Unit
  | [] => .ok ()
  | option :: rest =>
      match options.get? (camelCaseName option.name) with
      | some (.value value) =>
          match checkValue option.validator store ("--" ++ option.name) value with
          | .error error => .error error
          | .ok () => checkOptions store options rest
      | _ => checkOptions store options rest

/-- Run all checks of values. -/
def validate (command : Command σ) (store : σ) (invocation : Invocation) :
    Except DispatchError Unit :=
  match checkPositionals store command.arguments invocation.positional with
  | .error error => .error error
  | .ok () => checkOptions store invocation.options command.options

/-- The help of a resolved command. -/
def Resolution.help (resolution : Resolution σ) (store : σ) : Decision σ :=
  .help resolution.id (resolution.command.helpText resolution.id store)

/-- Decide what is to be done for a clause. -/
def decide (registry : Registry σ) (store : σ) (clause : Clause) (text : String) :
    Except DispatchError (Decision σ) :=
  match prepare registry store clause text with
  | .error error => .error error
  | .ok ⟨resolution, invocation, helpRequested⟩ =>
      if helpRequested then .ok (resolution.help store)
      else
        match resolution.command.body with
        | none =>
            match checkGroupWords resolution.command invocation with
            | .error error => .error error
            | .ok () => .ok (resolution.help store)
        | some body =>
            match checkArguments resolution.command invocation with
            | .error error => .error error
            | .ok () =>
                match validate resolution.command store invocation with
                | .error error => .error error
                | .ok () => .ok (.execute invocation (body invocation))

end OperatorShell.Command
