import OperatorShell.Text.Blank
import OperatorShell.Text.Bytes

/-!
# Columns of text

Help texts and picker rows put labels into a column.  The column is as wide as the
longest label in bytes, while padding counts characters.
-/

namespace OperatorShell.Text

/-- The label with spaces after it, up to a number of characters. -/
def padEnd (width : Nat) (label : String) : String :=
  label ++ String.ofList (List.replicate (width - label.length) ' ')

/-- Length in bytes of the longest label. -/
def columnWidth (labels : List String) : Nat :=
  (labels.map fun label => byteLength label.toList).foldl max 0

/-- The lines of a text, cut at every line feed. -/
def lines (text : String) : List String :=
  (text.toList.splitOn '\n').map String.ofList

/-- The part of a text before its first line feed, without the carriage return at
its end. -/
def firstLine (text : String) : String :=
  let line := text.toList.takeWhile (· != '\n')
  let ended := line.length < text.length
  String.ofList (if ended && line.getLast? == some '\r' then line.dropLast else line)

/-- The text without its trailing white space. -/
def trimEndText (text : String) : String := String.ofList (trimEnd text.toList)

end OperatorShell.Text
