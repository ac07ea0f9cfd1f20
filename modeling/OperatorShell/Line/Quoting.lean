/-!
# Quoting

A double quote opens a run in which spaces do not separate words, and the next
double quote closes it.  Inside a run a backslash makes the character after it
stand for itself.  `Quoting` is the state of a reader that goes through a line
from left to right; `quote` writes a value so that it is read as one word, and
`unquote` takes the marks away again.
-/

namespace OperatorShell.Line

/-- How a reader takes the next character of a line. -/
inductive Quoting where
  /-- Outside quotes, where a space separates words. -/
  | plain
  /-- Inside a quoted run. -/
  | quoted
  /-- Inside a quoted run, right after a backslash. -/
  | escaped
  deriving DecidableEq, Repr

namespace Quoting

/-- The state after one more character. -/
def step : Quoting → Char → Quoting
  | .plain, character => if character = '"' then .quoted else .plain
  | .quoted, character =>
      if character = '"' then .plain
      else if character = '\\' then .escaped
      else .quoted
  | .escaped, _ => .quoted

/-- The state after a whole text. -/
def after (state : Quoting) (text : List Char) : Quoting :=
  text.foldl step state

@[simp] theorem after_nil (state : Quoting) : state.after [] = state := rfl

@[simp] theorem after_cons (state : Quoting) (character : Char)
    (rest : List Char) :
    state.after (character :: rest) = (state.step character).after rest := rfl

@[simp] theorem after_append (state : Quoting) (left right : List Char) :
    state.after (left ++ right) = (state.after left).after right := by
  simp [after]

@[simp] theorem plain_step_space : Quoting.plain.step ' ' = .plain := rfl

end Quoting

/-- Keep the characters that a reader in the given state takes for content. -/
def contents : Quoting → List Char → List Char
  | _, [] => []
  | .plain, character :: rest =>
      if character = '"' then contents .quoted rest
      else character :: contents .plain rest
  | .quoted, character :: rest =>
      if character = '"' then contents .plain rest
      else if character = '\\' then contents .escaped rest
      else character :: contents .quoted rest
  | .escaped, character :: rest => character :: contents .quoted rest

/-- The value of a raw text, without its quotes and escaping backslashes. -/
def unquote (raw : List Char) : List Char := contents .plain raw

/-- Write a backslash before every quote and every backslash. -/
def escape : List Char → List Char
  | [] => []
  | character :: rest =>
      if character = '"' ∨ character = '\\' then
        '\\' :: character :: escape rest
      else character :: escape rest

/-- Whether the character makes a value need quotes. -/
def needsQuotes (character : Char) : Bool :=
  character == ' ' || character == '"' || character == '\\'

/-- Write a value as one word of a line.  A value without spaces, quotes and
backslashes stands for itself, unless it is empty. -/
def quote (value : List Char) : List Char :=
  if value ≠ [] ∧ value.all (!needsQuotes ·) then value
  else '"' :: (escape value ++ ['"'])

/-- Reading the escaped form inside quotes gives the value back, whatever
follows it. -/
theorem contents_escape (value rest : List Char) :
    contents .quoted (escape value ++ rest) = value ++ contents .quoted rest := by
  induction value with
  | nil => rfl
  | cons character value ih =>
      by_cases marked : character = '"' ∨ character = '\\'
      · rcases marked with equal | equal <;> subst equal <;>
          simp [escape, contents, ih]
      · have unmarked := not_or.mp marked
        simp [escape, contents, unmarked.1, unmarked.2, ih]

/-- The escaped form stays inside the quoted run. -/
theorem quoted_after_escape (value : List Char) :
    Quoting.quoted.after (escape value) = .quoted := by
  induction value with
  | nil => rfl
  | cons character value ih =>
      by_cases marked : character = '"' ∨ character = '\\'
      · rcases marked with equal | equal <;> subst equal <;>
          simp [escape, Quoting.step, ih]
      · have unmarked := not_or.mp marked
        simp [escape, Quoting.step, unmarked.1, unmarked.2, ih]

end OperatorShell.Line
