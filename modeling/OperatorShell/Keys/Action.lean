/-!
# Actions

What a key press can mean to a widget.
-/

namespace OperatorShell.Keys

/-- The meaning of a key. -/
inductive Action where
  /-- Type a character. -/
  | insert (character : Char)
  | deleteLeft | deleteRight | deleteWordLeft | deleteWordRight
  | moveLeft | moveRight | moveWordLeft | moveWordRight | moveHome | moveEnd
  | historyPrevious | historyNext
  | complete
  | next | previous | first | last | pageForward | pageBack
  /-- Go to a row of the visible page. -/
  | jump (row : Nat)
  /-- Answer yes or no. -/
  | answer (yes : Bool)
  | submit | cancel | interrupt
  /-- End the input on an empty line, delete to the right otherwise. -/
  | endOfInput
  deriving DecidableEq, Repr

end OperatorShell.Keys
