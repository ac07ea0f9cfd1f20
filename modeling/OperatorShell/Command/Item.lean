import OperatorShell.Command.Definition
import OperatorShell.Line.Basic
import OperatorShell.Text.CamelCase

/-!
# Items of a clause

The tokens after the path of a command are read as items: positional values, options
and requests for help.  A key that names no option of the command is taken for an
option that takes the value after it, if there is one.
-/

namespace OperatorShell.Command

open Line Text

variable {σ : Type}

/-- One thing that the operator says about a command. -/
inductive Item where
  | positional (value : String)
  /-- An option under its name with dashes. -/
  | option (name : String) (value : OptionValue)
  /-- A key that asks for help. -/
  | help
  deriving DecidableEq, Repr

/-- The key of an option token, unless it is nothing but dashes. -/
def tokenKey? (token : Token) : Option String :=
  match token.optionName? with
  | some [] => none
  | some name => some (String.ofList name)
  | none => none

/-- The value of a token. -/
def tokenValue (token : Token) : String := String.ofList token.value

/-- Whether a key asks for help where no option has it. -/
def isHelpKey (key : String) : Bool := key == "help" || key == "h"

/-- Read tokens as items.  The result is the name of an option that takes a value and
has none, or the items. -/
def readItems (command : Command σ) : List Token → Except String (List Item)
  | [] => .ok []
  | token :: rest =>
      match tokenKey? token with
      | none => (readItems command rest).map (.positional (tokenValue token) :: ·)
      | some key =>
          match command.findOption? key with
          | some option =>
              if option.takesValue then
                match rest with
                | [] => .error option.name
                | next :: later =>
                    if next.kind = .value then
                      (readItems command later).map
                        (.option option.name (.value (tokenValue next)) :: ·)
                    else .error option.name
              else (readItems command rest).map (.option option.name .flag :: ·)
          | none =>
              if isHelpKey key then (readItems command rest).map (.help :: ·)
              else
                match rest with
                | [] => .ok [.option key .flag]
                | next :: later =>
                    if next.kind = .value then
                      (readItems command later).map
                        (.option key (.value (tokenValue next)) :: ·)
                    else
                      (readItems command (next :: later)).map
                        (.option key .flag :: ·)

namespace Item

/-- The positional values, in order. -/
def positionals (items : List Item) : List String :=
  items.filterMap fun item =>
    match item with
    | .positional value => some value
    | _ => none

/-- The options by camel-cased name; of two with one name the later counts. -/
def options (items : List Item) : OptionMap :=
  items.foldl (fun map item =>
    match item with
    | .option name value => map.insert (camelCaseName name) value
    | _ => map) .empty

/-- Whether some item asks for help. -/
def askForHelp (items : List Item) : Bool := items.contains .help

end Item

end OperatorShell.Command
