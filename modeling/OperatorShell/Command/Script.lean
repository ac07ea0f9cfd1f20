import OperatorShell.Question.Basic

/-!
# Scripts

The body of a command is a script: a program that reads and writes the store of the
catalog, prints lines, puts questions to the operator and may fail.  A script is
plain data, so what it does to the terminal is decided by the one who runs it, and a
script can reach the terminal only through printing and asking.
-/

namespace OperatorShell.Command

/-- A program over a store of type `σ` that ends with a value of type `α`. -/
inductive Script (σ α : Type) where
  | done (result : α)
  | fail (failure : Failure)
  /-- Go on with the current store. -/
  | load (next : σ → Script σ α)
  /-- Replace the store. -/
  | save (store : σ) (next : Script σ α)
  /-- Print a text, end the line and go on with the fault, if there was one. -/
  | print (text : String) (next : Option Fault → Script σ α)
  /-- Put a question and go on with what came of it. -/
  | pose (question : Question)
      (next : Except ReadError question.Answer → Script σ α)

namespace Script

variable {σ α β : Type}

/-- One script after another. -/
def bind : Script σ α → (α → Script σ β) → Script σ β
  | .done result, next => next result
  | .fail failure, _ => .fail failure
  | .load more, next => .load fun store => (more store).bind next
  | .save store more, next => .save store (more.bind next)
  | .print text more, next => .print text fun fault => (more fault).bind next
  | .pose question more, next =>
      .pose question fun answer => (more answer).bind next

instance : Monad (Script σ) where
  pure := .done
  bind := bind

/-- The current store. -/
def get : Script σ σ := .load .done

/-- Change the store. -/
def modify (change : σ → σ) : Script σ Unit :=
  .load fun store => .save (change store) (.done ())

/-- Fail with a single message. -/
def failWith (message : String) : Script σ α := .fail (.ofMessage message)

/-- Print a text and end the line; a fault makes the script fail. -/
def printLine (text : String) : Script σ Unit :=
  .print text fun fault =>
    match fault with
    | none => .done ()
    | some fault => failWith fault.message

/-- Put a question; no answer makes the script fail. -/
def ask (question : Question) : Script σ question.Answer :=
  .pose question fun answer =>
    match answer with
    | .ok answer => .done answer
    | .error error => .fail (.ofRead error)

end Script

end OperatorShell.Command
