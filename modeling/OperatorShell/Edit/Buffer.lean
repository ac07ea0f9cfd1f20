import OperatorShell.Text.Blank

/-!
# The line being edited

A buffer holds the text, the cursor as a number of characters before it, and a
suggestion that may follow the text.  A completed buffer does not change any more.
Word motions and word deletions share one notion of a word: a run of characters that
are not white space.
-/

namespace OperatorShell.Edit

open Text

/-- Whether a buffer can still change. -/
inductive Status where
  | active
  | complete
  deriving DecidableEq, Repr

/-- A line of text in the making. -/
structure Buffer where
  text : List Char
  /-- Number of characters before the cursor. -/
  cursor : Nat
  status : Status
  /-- What could follow the text. -/
  suggestion : Option (List Char)
  deriving DecidableEq, Repr

/-- Number of characters from the end of a text back to the start of its last word. -/
def lastWordLength (text : List Char) : Nat :=
  let backwards := text.reverse
  (backwards.takeWhile isBlank).length +
    ((backwards.dropWhile isBlank).takeWhile (!isBlank ·)).length

/-- Number of characters up to the end of the first word of a text. -/
def firstWordLength (text : List Char) : Nat :=
  (text.takeWhile isBlank).length +
    ((text.dropWhile isBlank).takeWhile (!isBlank ·)).length

namespace Buffer

/-- The buffer without text. -/
def empty : Buffer := ⟨[], 0, .active, none⟩

/-- A buffer with the cursor behind a text. -/
def ofText (text : List Char) : Buffer := ⟨text, text.length, .active, none⟩

/-- Number of characters. -/
def length (buffer : Buffer) : Nat := buffer.text.length

/-- The text before the cursor. -/
def before (buffer : Buffer) : List Char := buffer.text.take buffer.cursor

/-- The text after the cursor. -/
def after (buffer : Buffer) : List Char := buffer.text.drop buffer.cursor

/-- Where the word before the cursor starts, past the white space between. -/
def wordStart (buffer : Buffer) : Nat :=
  buffer.before.length - lastWordLength buffer.before

/-- Where the word after the cursor ends, past the white space between. -/
def wordEnd (buffer : Buffer) : Nat :=
  buffer.cursor + firstWordLength buffer.after

/-- Change a buffer that is not complete. -/
def edit (buffer : Buffer) (change : Buffer → Buffer) : Buffer :=
  match buffer.status with
  | .active => change buffer
  | .complete => buffer

/-- Type a character at the cursor. -/
def insert (buffer : Buffer) (character : Char) : Buffer :=
  buffer.edit fun buffer =>
    { buffer with
      text := buffer.before ++ character :: buffer.after
      cursor := buffer.cursor + 1 }

/-- Type a text at the cursor. -/
def insertText (buffer : Buffer) (text : List Char) : Buffer :=
  text.foldl insert buffer

/-- Delete the character before the cursor. -/
def deleteLeft (buffer : Buffer) : Buffer :=
  buffer.edit fun buffer =>
    { buffer with
      text := buffer.text.take (buffer.cursor - 1) ++ buffer.after
      cursor := buffer.cursor - 1 }

/-- Delete the character after the cursor. -/
def deleteRight (buffer : Buffer) : Buffer :=
  buffer.edit fun buffer =>
    { buffer with text := buffer.before ++ buffer.after.drop 1 }

/-- Delete back to the start of the word before the cursor. -/
def deleteWordLeft (buffer : Buffer) : Buffer :=
  buffer.edit fun buffer =>
    { buffer with
      text := buffer.text.take buffer.wordStart ++ buffer.after
      cursor := buffer.wordStart }

/-- Delete up to the end of the word after the cursor. -/
def deleteWordRight (buffer : Buffer) : Buffer :=
  buffer.edit fun buffer =>
    { buffer with text := buffer.before ++ buffer.text.drop buffer.wordEnd }

/-- Go one character to the left. -/
def moveLeft (buffer : Buffer) : Buffer :=
  buffer.edit fun buffer => { buffer with cursor := buffer.cursor - 1 }

/-- Make the suggestion part of the text. -/
def acceptSuggestion (buffer : Buffer) : Buffer :=
  match buffer.suggestion with
  | some suggestion =>
      { buffer with
        text := buffer.text ++ suggestion
        cursor := (buffer.text ++ suggestion).length
        suggestion := none }
  | none => buffer

/-- Go one character to the right; at the end, accept the suggestion. -/
def moveRight (buffer : Buffer) : Buffer :=
  buffer.edit fun buffer =>
    if buffer.cursor < buffer.length then
      { buffer with cursor := buffer.cursor + 1 }
    else buffer.acceptSuggestion

/-- Go to the start of the word before the cursor. -/
def moveWordLeft (buffer : Buffer) : Buffer :=
  buffer.edit fun buffer => { buffer with cursor := buffer.wordStart }

/-- Go to the end of the word after the cursor. -/
def moveWordRight (buffer : Buffer) : Buffer :=
  buffer.edit fun buffer => { buffer with cursor := buffer.wordEnd }

/-- Go to the start of the text. -/
def moveHome (buffer : Buffer) : Buffer :=
  buffer.edit fun buffer => { buffer with cursor := 0 }

/-- Go to the end of the text; from there, accept the suggestion. -/
def moveEnd (buffer : Buffer) : Buffer :=
  buffer.edit fun buffer =>
    if buffer.cursor = buffer.length then buffer.acceptSuggestion
    else { buffer with cursor := buffer.length }

/-- Put another text in place of the whole text, with the cursor behind it. -/
def replace (buffer : Buffer) (text : List Char) : Buffer :=
  buffer.edit fun buffer => { buffer with text := text, cursor := text.length }

/-- Put another text in place of the characters between two positions, with the
cursor behind it.  Positions past the end count as the end. -/
def splice (buffer : Buffer) (start stop : Nat) (inserted : List Char) : Buffer :=
  buffer.edit fun buffer =>
    let stop := min stop buffer.length
    let start := min start stop
    { buffer with
      text := buffer.text.take start ++ inserted ++ buffer.text.drop stop
      cursor := start + inserted.length }

/-- Whether a text can be shown as a suggestion: it is there, and it is one line. -/
def isSuggestible (text : List Char) : Bool :=
  !text.isEmpty && !text.contains '\n'

/-- Set or remove the suggestion. -/
def suggest (buffer : Buffer) (suggestion : Option (List Char)) : Buffer :=
  buffer.edit fun buffer =>
    { buffer with suggestion := suggestion.filter isSuggestible }

/-- End the editing. -/
def complete (buffer : Buffer) : Buffer :=
  { buffer with suggestion := none, status := .complete }

end Buffer

end OperatorShell.Edit
