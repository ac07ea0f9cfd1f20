import OperatorShell.Edit.Buffer
import OperatorShell.Keys.Action
import OperatorShell.Screen.Control
import OperatorShell.Text.Layout
import OperatorShell.Text.Width

/-!
# The line editor

A header with a buffer behind it, and the drawings of both.  A masked editor draws a
glyph for every character and shows no suggestion.
-/

namespace OperatorShell.Edit

open Keys Screen Text

/-- A header and the line typed after it. -/
structure Editor where
  header : String
  buffer : Buffer
  /-- Glyph drawn in place of every character. -/
  mask : Option Char
  deriving DecidableEq, Repr

namespace Editor

/-- An editor without text. -/
def ofHeader (header : String) (mask : Option Char) : Editor :=
  ⟨header, .empty, mask⟩

/-- Change the buffer. -/
def edit (editor : Editor) (change : Buffer → Buffer) : Editor :=
  { editor with buffer := change editor.buffer }

/-- The edit that an action stands for, if it stands for one. -/
def editOf? : Action → Option (Buffer → Buffer)
  | .insert character => some (·.insert character)
  | .deleteLeft => some Buffer.deleteLeft
  | .deleteRight => some Buffer.deleteRight
  | .deleteWordLeft => some Buffer.deleteWordLeft
  | .deleteWordRight => some Buffer.deleteWordRight
  | .moveLeft => some Buffer.moveLeft
  | .moveRight => some Buffer.moveRight
  | .moveWordLeft => some Buffer.moveWordLeft
  | .moveWordRight => some Buffer.moveWordRight
  | .moveHome => some Buffer.moveHome
  | .moveEnd => some Buffer.moveEnd
  | _ => none

/-- Apply an action.  Actions that are not edits change nothing. -/
def apply (editor : Editor) (action : Action) : Editor :=
  match editOf? action with
  | some change => editor.edit change
  | none => editor

/-- A text as the editor shows it. -/
def visible (editor : Editor) (text : List Char) : List Char :=
  match editor.mask with
  | some glyph => List.replicate text.length glyph
  | none => text

/-- The header and the text, on a clean row. -/
def drawContent (editor : Editor) : Drawing :=
  [.toColumn 0, .eraseRow, .text editor.header,
   .text (String.ofList (editor.visible editor.buffer.text))]

/-- The column of the cursor. -/
def column (editor : Editor) : Nat :=
  width editor.header.toList + width (editor.visible editor.buffer.before)

/-- The suggestion behind the text. -/
def drawSuggestion (editor : Editor) : Drawing :=
  match editor.buffer.suggestion, editor.mask with
  | some suggestion, none => [.dim, .text (String.ofList suggestion), .reset]
  | _, _ => []

/-- The whole line.  A completed line is left behind; an active one has the cursor at
its place. -/
def render (editor : Editor) : Drawing :=
  match editor.buffer.status with
  | .complete => editor.drawContent ++ [.lineBreak, .eraseBelow]
  | .active =>
      editor.drawContent ++ editor.drawSuggestion ++ [.toColumn editor.column]

/-- The line with a mark for work that takes time. -/
def renderBusy (editor : Editor) : Drawing :=
  editor.drawContent ++
    [.dim, .text " …", .reset, .toColumn editor.column]

/-- The first line of a message on the row below, and the line again. -/
def showError (editor : Editor) (message : String) : Drawing :=
  [.lineBreak, .eraseRow, .red, .text (firstLine message), .resetColor, .up 1] ++
    editor.render

/-- The header in reverse video, and the line again. -/
def blink (editor : Editor) : Drawing :=
  [.toColumn 0, .reverse, .text editor.header, .reset] ++ editor.render

/-- The editor with a completed line. -/
def finish (editor : Editor) : Editor := editor.edit Buffer.complete

/-- The editor with another text as its completed line. -/
def finishWith (editor : Editor) (text : List Char) : Editor :=
  (editor.edit fun buffer => (buffer.suggest none).replace text).finish

end Editor

end OperatorShell.Edit
