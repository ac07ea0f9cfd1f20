import OperatorShell.Candidate
import OperatorShell.Failure

/-!
# Questions

The four questions that a command can put to the operator, and the type of the
answer that each of them has.
-/

namespace OperatorShell

/-- A question for a line of text. -/
structure Prompt where
  header : String
  /-- The answer to an empty line, shown as a suggestion. -/
  default : Option String
  /-- Glyph drawn in place of every character. -/
  mask : Option Char
  /-- Continuation of the text typed so far. -/
  suggest : Option (String → Option String)
  /-- Check of an answer before it is accepted. -/
  validator : Option (String → Except Failure Unit)

/-- A question for the operator. -/
inductive Question where
  /-- Yes or no, with the answer that Return gives. -/
  | confirm (question : String) (default : Bool)
  /-- A line of text. -/
  | ask (prompt : Prompt)
  /-- A line of text that is not shown. -/
  | secret (header : String)
  /-- One of several candidates. -/
  | choose (header : String) (candidates : List Candidate)

namespace Prompt

/-- A prompt with nothing but a header. -/
def ofHeader (header : String) : Prompt := ⟨header, none, none, none, none⟩

end Prompt

namespace Question

/-- The type of the answer.  A choice has none when there is nothing to choose. -/
abbrev Answer : Question → Type
  | .confirm _ _ => Bool
  | .ask _ => String
  | .secret _ => String
  | .choose _ _ => Option Candidate

end Question

end OperatorShell
