import OperatorShell.Command.OptionMap

/-!
# Invocations

Everything that the body of a command gets from the line.
-/

namespace OperatorShell.Command

/-- One use of a command. -/
structure Invocation where
  /-- Qualified id of the command. -/
  id : String
  positional : List String
  /-- Options by the camel-cased long name. -/
  options : OptionMap
  /-- The part of the line that the command was typed in. -/
  line : String
  deriving DecidableEq, Repr

namespace Invocation

/-- The positional value at an index. -/
def argument? (invocation : Invocation) (index : Nat) : Option String :=
  invocation.positional[index]?

/-- Whether the operator gave the option, with or without a value. -/
def has (invocation : Invocation) (name : String) : Bool :=
  (invocation.options.get? name).isSome

/-- The value that the operator gave for the option. -/
def value? (invocation : Invocation) (name : String) : Option String :=
  match invocation.options.get? name with
  | some (.value text) => some text
  | _ => none

end Invocation

end OperatorShell.Command
