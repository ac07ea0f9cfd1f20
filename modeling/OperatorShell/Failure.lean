/-!
# Failures

Reading from the operator ends with a `ReadError` when there is no answer.  Code that
a catalog brings along (providers, validators, command bodies) fails with a
`Failure`: a root cause under any number of explanations, outermost first.
-/

namespace OperatorShell

/-- How a terminal fails those who read from it and write to it. -/
inductive Fault where
  /-- Another reader is still waiting for a key. -/
  | busy
  /-- The key source itself failed. -/
  | source (message : String)
  /-- The terminal did not take what was written, or did not enter raw mode. -/
  | output (message : String)
  deriving DecidableEq, Repr

/-- How reading from the operator ends without an answer. -/
inductive ReadError where
  /-- Ctrl+C in a widget. -/
  | interrupted
  /-- There are no more keys. -/
  | closed
  | fault (reason : Fault)
  deriving DecidableEq, Repr

namespace Fault

def message : Fault → String
  | .busy => "key source is already being read"
  | .source message | .output message => message

end Fault

namespace ReadError

def message : ReadError → String
  | .interrupted => "interrupted"
  | .closed => "input closed"
  | .fault reason => "terminal I/O failed: " ++ reason.message

/-- The message, and below it what caused the error. -/
def chain (error : ReadError) : List String :=
  match error with
  | .interrupted | .closed => [error.message]
  | .fault reason => [error.message, reason.message]

/-- Exit status of a program whose session this error ends. -/
def exitCode : ReadError → Nat
  | .interrupted => 130
  | .closed => 0
  | .fault _ => 1

end ReadError

/-- What a failure comes down to. -/
inductive Cause where
  | message (text : String)
  /-- A question found no answer. -/
  | reading (error : ReadError)
  deriving DecidableEq, Repr

/-- A failure of catalog code. -/
structure Failure where
  /-- Explanations around the cause, outermost first. -/
  contexts : List String
  cause : Cause
  deriving DecidableEq, Repr

namespace Failure

/-- A failure with a single message. -/
def ofMessage (text : String) : Failure := ⟨[], .message text⟩

/-- The failure of a command whose question found no answer. -/
def ofRead (error : ReadError) : Failure := ⟨[], .reading error⟩

/-- All messages, outermost first. -/
def chain (failure : Failure) : List String :=
  failure.contexts ++
    match failure.cause with
    | .message text => [text]
    | .reading error => error.chain

/-- The outermost message. -/
def summary (failure : Failure) : String :=
  failure.chain.headD ""

/-- All messages in one line. -/
def describe (failure : Failure) : String :=
  ": ".intercalate failure.chain

/-- Whether the cause, under any explanations, is the operator's Ctrl+C. -/
def isInterrupt (failure : Failure) : Bool :=
  failure.cause == .reading .interrupted

end Failure

end OperatorShell
