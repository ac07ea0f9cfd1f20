/-!
# Screen controls

What widgets write to the terminal: printed text, and controls that move the cursor,
erase, and set attributes.  A drawing is a list of them, and `render` gives the
sequence of characters that the terminal gets.
-/

namespace OperatorShell.Screen

/-- A piece of output. -/
inductive Control where
  | text (content : String)
  /-- Go to the start of the next row. -/
  | lineBreak
  /-- Go to a column of the row, counted from zero. -/
  | toColumn (column : Nat)
  /-- Go up some rows. -/
  | up (rows : Nat)
  /-- Erase from the cursor to the end of the row. -/
  | eraseRow
  /-- Erase from the cursor to the end of the screen. -/
  | eraseBelow
  | reverse | dim | reset
  /-- Print in red. -/
  | red
  /-- Print in the usual color. -/
  | resetColor
  | hideCursor | showCursor
  deriving DecidableEq, Repr

/-- Output in the order in which it is written. -/
abbrev Drawing := List Control

/-- The largest number that a cursor control can carry. -/
def maxCoordinate : Nat := 65535

namespace Control

/-- A control sequence. -/
def sequence (body : String) : String := "\x1b[" ++ body

/-- The characters that a piece of output stands for. -/
def render : Control → String
  | .text content => content
  | .lineBreak => "\r\n"
  | .toColumn column => sequence (toString (min column maxCoordinate + 1) ++ "G")
  | .up rows => sequence (toString (min rows maxCoordinate) ++ "A")
  | .eraseRow => sequence "K"
  | .eraseBelow => sequence "J"
  | .reverse => sequence "7m"
  | .dim => sequence "2m"
  | .reset => sequence "0m"
  | .red => sequence "38;5;9m"
  | .resetColor => sequence "0m"
  | .hideCursor => sequence "?25l"
  | .showCursor => sequence "?25h"

end Control

namespace Drawing

/-- The characters that a drawing stands for. -/
def render (drawing : Drawing) : String :=
  String.join (drawing.map Control.render)

end Drawing

end OperatorShell.Screen
