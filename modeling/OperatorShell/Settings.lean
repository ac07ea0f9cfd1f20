import OperatorShell.History
import OperatorShell.Question.Widgets

/-!
# Settings

What an operator can set for the prompt, the history, the picker and the log.
-/

namespace OperatorShell

/-- The settings of a shell. -/
structure Settings where
  /-- Header in front of the command line. -/
  prompt : String
  /-- Glyph drawn for the characters of a secret. -/
  maskGlyph : Char
  /-- Path of the history file. -/
  historyFile : Option String
  historyLimit : Nat
  /-- Rows on a page of candidates. -/
  pageSize : Nat
  /-- Milliseconds after which a completion shows that it is busy. -/
  busyDebounce : Nat
  /-- Milliseconds for which an empty line blinks. -/
  blink : Nat
  /-- What goes into the log. -/
  logLevel : String
  /-- Directory of the log files. -/
  logDir : Option String
  deriving DecidableEq, Repr

namespace Settings

/-- The settings of an operator who has set nothing. -/
def default : Settings where
  prompt := "opsh> "
  maskGlyph := '*'
  historyFile := none
  historyLimit := History.defaultLimit
  pageSize := Picker.defaultPageSize
  busyDebounce := 350
  blink := 120
  logLevel := "info"
  logDir := none

/-- How questions look under these settings. -/
def askStyle (settings : Settings) : AskStyle :=
  ⟨settings.pageSize, settings.maskGlyph⟩

end Settings

end OperatorShell
