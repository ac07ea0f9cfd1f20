import OperatorShell.Disk
import OperatorShell.Json.Basic
import OperatorShell.Json.Layout
import OperatorShell.Text.Blank

/-!
# Command history

The lines that were submitted, newest first and at most as many as the limit.  Going
through them keeps an index; no index means that the operator is at a fresh line.  A
history can have a file, which holds the entries as a JSON array of strings and is
written anew after every change.
-/

namespace OperatorShell

open Text

/-- Submitted lines. -/
structure History where
  /-- Newest first. -/
  entries : List String
  /-- The largest number of entries. -/
  limit : Nat
  /-- Whether the entries are kept in a file. -/
  isFileBacked : Bool
  /-- Index of the entry shown, while going through the entries. -/
  scroll : Option Nat
  deriving DecidableEq, Repr

namespace History

/-- Number of entries that a history keeps unless told otherwise. -/
def defaultLimit : Nat := 80

/-- A history without a file.  The limit is at least one. -/
def inMemory (limit : Nat) : History := ⟨[], max limit 1, false, none⟩

/-- The entries that a file holds, or none when it holds no array of strings. -/
def readEntries (disk : Disk) : List String :=
  ((disk.read?.bind Json.parse?).bind Json.strings?).getD []

/-- The history in a file. -/
def load (disk : Disk) (limit : Nat) : History :=
  { inMemory limit with
    entries := (readEntries disk).take (max limit 1)
    isFileBacked := true }

/-- Whether a line is worth an entry: it is not blank, and it does not repeat the
newest entry. -/
def accepts (history : History) (line : String) : Bool :=
  !isBlankText line.toList && history.entries.head? != some line

/-- Record a line in memory. -/
def push (history : History) (line : String) : History :=
  if history.accepts line then
    { history with
      entries := (line :: history.entries).take history.limit
      scroll := none }
  else { history with scroll := none }

/-- Write the entries to the file in the given way, if there is a file; `none` when
that fails. -/
def persistWith? (write? : Disk → String → Option Disk) (history : History)
    (disk : Disk) : Option Disk :=
  if history.isFileBacked then write? disk (Json.renderStrings history.entries)
  else some disk

/-- Write the entries to the file, if there is one. -/
def persist? (history : History) (disk : Disk) : Option Disk :=
  history.persistWith? Disk.write? disk

/-- Record a line and write the file in the given way if the line made an entry.  The
line stays recorded when writing fails. -/
def submitWith (write? : Disk → String → Option Disk) (history : History)
    (line : String) (disk : Disk) : Option Disk × History :=
  let recorded := history.push line
  if history.accepts line then (recorded.persistWith? write? disk, recorded)
  else (some disk, recorded)

/-- Record a line and write the file if the line made an entry. -/
def submit (history : History) (line : String) (disk : Disk) :
    Option Disk × History :=
  history.submitWith Disk.write? line disk

/-- Back to a fresh line. -/
def resetScroll (history : History) : History := { history with scroll := none }

/-- The entry shown. -/
def current? (history : History) : Option String :=
  history.scroll.bind fun index => history.entries[index]?

/-- The index of the next older entry.  The oldest one is not left. -/
def older (scroll : Option Nat) (count : Nat) : Option Nat :=
  if count = 0 then scroll
  else
    match scroll with
    | none => some 0
    | some index => some (min (index + 1) (count - 1))

/-- The index of the next newer entry; `none` is the fresh line. -/
def newer : Option Nat → Option Nat
  | some (index + 1) => some index
  | _ => none

/-- Go to the next older entry and show it. -/
def previous (history : History) : Option String × History :=
  if history.entries.isEmpty then (none, history)
  else
    let moved :=
      { history with scroll := older history.scroll history.entries.length }
    (moved.current?, moved)

/-- Go to the next newer entry and show it; `none` is the fresh line. -/
def next (history : History) : Option String × History :=
  let moved := { history with scroll := newer history.scroll }
  (moved.current?, moved)

/-- The rest of a text behind a stem. -/
def continuation? : (stem text : List Char) → Option (List Char)
  | [], text => some text
  | expected :: stem, character :: text =>
      if character = expected then continuation? stem text else none
  | _ :: _, [] => none

/-- What the newest entry that is longer than a text and starts with it adds to the
text. -/
def suggestion (history : History) (typed : List Char) : Option (List Char) :=
  if typed = [] then none
  else
    history.entries.findSome? fun entry =>
      match continuation? typed entry.toList with
      | some [] | none => none
      | some rest => some rest

end History

end OperatorShell
