import OperatorShell.Candidate
import OperatorShell.Console
import OperatorShell.Text.Layout

/-!
# The picker

A list of candidates drawn below the current line, one page at a time.  The page is a
window on the list that follows the highlighted row, and digits go to a row of the
page.  An escaping picker also closes on Escape and on keys that it does not know,
which its host then handles.
-/

namespace OperatorShell

open Keys Screen Text

/-- Candidates, the highlighted one, and the window that is shown. -/
structure Picker where
  candidates : List Candidate
  pageSize : Nat
  /-- Index of the highlighted candidate. -/
  highlighted : Nat
  /-- Index of the first candidate on the page. -/
  offset : Nat
  /-- Whether Escape and unknown keys close the picker. -/
  escaping : Bool
  deriving DecidableEq, Repr

/-- How a pick ends. -/
inductive PickerOutcome where
  | selected (candidate : Candidate)
  /-- Escape, or nothing to pick from. -/
  | cancelled
  /-- A key that the picker does not know. -/
  | escaped (event : KeyEvent)
  deriving DecidableEq, Repr

namespace Picker

/-- Number of different machine words. -/
def wordSize : Nat := UInt64.size

/-- Number of rows on a page unless told otherwise. -/
def defaultPageSize : Nat := 10

/-- A picker at the first candidate.  A page has at least one row. -/
def ofCandidates (candidates : List Candidate) (pageSize : Nat) (escaping : Bool) :
    Picker :=
  ⟨candidates, max pageSize 1, 0, 0, escaping⟩

/-- Number of candidates. -/
def size (picker : Picker) : Nat := picker.candidates.length

/-- The highlighted candidate. -/
def selected? (picker : Picker) : Option Candidate :=
  picker.candidates[picker.highlighted]?

/-- The candidates on the page. -/
def visible (picker : Picker) : List Candidate :=
  (picker.candidates.drop picker.offset).take picker.pageSize

/-- The offset of a window of some size that holds a row, moved as little as
possible. -/
def follow (size offset row : Nat) : Nat :=
  if row < offset then row
  else if offset + size ≤ row then row + 1 - size
  else offset

/-- Highlight a row and let the window follow. -/
def highlight (picker : Picker) (row : Nat) : Picker :=
  { picker with
    highlighted := row
    offset := follow picker.pageSize picker.offset row }

/-- Index of the last candidate. -/
def lastRow (picker : Picker) : Nat := picker.size - 1

def next (picker : Picker) : Picker :=
  picker.highlight
    (if picker.highlighted + 1 < picker.size then picker.highlighted + 1
    else picker.highlighted)

def previous (picker : Picker) : Picker := picker.highlight (picker.highlighted - 1)

def first (picker : Picker) : Picker := picker.highlight 0

def last (picker : Picker) : Picker := picker.highlight picker.lastRow

/-- Go a page forward.  The sum is one of machine words: what does not fit into a word
is lost of it. -/
def pageForward (picker : Picker) : Picker :=
  picker.highlight
    (min ((picker.highlighted + picker.pageSize) % wordSize) picker.lastRow)

def pageBack (picker : Picker) : Picker :=
  picker.highlight (picker.highlighted - picker.pageSize)

/-- Highlight a row of the page, if the page has it.  The window stays. -/
def jump (picker : Picker) (row : Nat) : Picker :=
  if row < picker.visible.length then
    { picker with highlighted := picker.offset + row }
  else picker

/-- The picker after an action, if the action is a way to go. -/
def navigate? (picker : Picker) : Action → Option Picker
  | .next => some picker.next
  | .previous => some picker.previous
  | .first => some picker.first
  | .last => some picker.last
  | .pageForward => some picker.pageForward
  | .pageBack => some picker.pageBack
  | .jump row => some (picker.jump row)
  | _ => none

/-- The text of a row: its digit, the value, and in a second column the
description. -/
def label (column row : Nat) (candidate : Candidate) : String :=
  match candidate.description with
  | some description =>
      toString row ++ " " ++ padEnd column candidate.value ++ "  " ++ description
  | none => toString row ++ " " ++ candidate.value

/-- A row, in reverse video if it is highlighted. -/
def drawRow (label : String) (isHighlighted : Bool) : Drawing :=
  [.lineBreak, .eraseRow] ++
    if isHighlighted then [.reverse, .text label, .reset] else [.text label]

/-- Clean rows below the cursor. -/
def eraseRows (rows : Nat) : Drawing :=
  (List.replicate rows [Control.lineBreak, .eraseRow]).flatten

/-- Back up over rows. -/
def rise (rows : Nat) : Drawing := if rows = 0 then [] else [.up rows]

/-- The rows of a page, numbered from its top. -/
def drawRows (picker : Picker) : Drawing :=
  let column := columnWidth (picker.visible.map Candidate.value)
  picker.visible.zipIdx.flatMap fun entry =>
    drawRow (label column entry.2 entry.1)
      (picker.offset + entry.2 == picker.highlighted)

/-- Number of rows that a drawing covers, when some rows are there already. -/
def rowsCovered (picker : Picker) (drawn : Nat) : Nat :=
  max picker.visible.length drawn

/-- Draw the page over the rows that are there already, and return to the line. -/
def render (picker : Picker) (drawn : Nat) : Drawing :=
  picker.drawRows ++ eraseRows (drawn - picker.visible.length) ++
    rise (picker.rowsCovered drawn) ++ [.toColumn 0]

/-- Erase rows and show the cursor again. -/
def clear (rows : Nat) : Drawing := eraseRows rows ++ rise rows ++ [.showCursor]

end Picker

/-- A picker on the screen. -/
structure Picking (device : Device := .sound) where
  picker : Picker
  /-- Number of rows that have been drawn. -/
  rows : Nat
  display : Display device

namespace Picking

variable {device : Device}

/-- Draw the current page. -/
def redraw (picking : Picking device) : Attempt (Picking device) :=
  (picking.display.draw (picking.picker.render picking.rows)).map fun display =>
    { picking with
      rows := picking.picker.rowsCovered picking.rows
      display := display }

/-- Put a picker on the screen. -/
def start (picker : Picker) (display : Display device) : Attempt (Picking device) :=
  ((display.draw [.hideCursor]).map (⟨picker, 0, ·⟩)).andThen redraw

/-- Take the picker off the screen. -/
def clear (picking : Picking device) : Attempt (Picking device) :=
  (picking.display.draw (Picker.clear picking.rows)).map fun display =>
    { picking with display := display }

/-- What a key means to a picker. -/
inductive Choice where
  /-- Go on with the picker in this state. -/
  | stay (picker : Picker)
  | leave (result : Except ReadError PickerOutcome)

/-- What becomes of a picker by a key with the given meaning. -/
def choose (picker : Picker) (event : KeyEvent) (action : Option Action) : Choice :=
  match action with
  | some .interrupt => .leave (.error .interrupted)
  | some .submit =>
      match picker.selected? with
      | some candidate => .leave (.ok (.selected candidate))
      | none => .leave (.ok .cancelled)
  | action =>
      if picker.escaping && action == some .cancel then .leave (.ok .cancelled)
      else
        match action.bind picker.navigate? with
        | some picker => .stay picker
        | none =>
            if picker.escaping then .leave (.ok (.escaped event)) else .stay picker

/-- React to a key. -/
def react (picking : Picking device) (event : KeyEvent) :
    Reaction (Picking device) PickerOutcome :=
  match choose picking.picker event (picking.display.dispatch event) with
  | .stay picker => (redraw { picking with picker := picker }).wait
  | .leave result => picking.clear.finish result

/-- The picker as a widget. -/
def widget : Widget (Picking device) PickerOutcome := ⟨react, clear⟩

end Picking

namespace Picker

variable {device : Device}

/-- Let the operator pick a candidate.  With none to pick from, the pick is
cancelled at once. -/
def pick (picker : Picker) (console : Console device) :
    Except ReadError PickerOutcome × Picker × Console device :=
  if picker.candidates.isEmpty then (.ok .cancelled, picker, console)
  else
    let (guard, display) := console.display.enter .picker
    let (result, picking, signals) :=
      Picking.widget.run (Picking.start picker display) console.signals
    (result, picking.picker, ⟨picking.display.release guard, signals⟩)

/-- A pick leaves the last ones of the keys that were to come. -/
theorem signals_pick_suffix (picker : Picker) (console : Console device) :
    (picker.pick console).2.2.signals <:+ console.signals := by
  unfold pick
  split
  · exact List.suffix_rfl
  · exact Picking.widget.run_signals_suffix ..

end Picker

end OperatorShell
