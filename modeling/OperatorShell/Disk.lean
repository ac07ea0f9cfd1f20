/-!
# Places on a disk

What can be at the path of a file that a program wants to read or write, and what the
operating system says when that does not work.
-/

namespace OperatorShell

/-- What is at a path. -/
inductive Disk where
  /-- Nothing yet. -/
  | missing
  /-- A file that holds a text. -/
  | file (content : String)
  /-- A file whose bytes are no text. -/
  | garbled (bytes : List UInt8)
  /-- A directory, which can be neither read nor written. -/
  | directory
  /-- The directory of the path cannot be made, as a file is in its place. -/
  | unreachable
  deriving DecidableEq, Repr

namespace Disk

/-- The text at the path, if it can be read. -/
def read? : Disk → Option String
  | .file content => some content
  | _ => none

/-- Write a file; `none` when that is not possible. -/
def write? (disk : Disk) (content : String) : Option Disk :=
  match disk with
  | .directory | .unreachable => none
  | _ => some (.file content)

/-- Whether anything is at the path. -/
def isThere : Disk → Bool
  | .missing | .unreachable => false
  | _ => true

/-- The text at the path, or why it cannot be read. -/
def read : Disk → Except String String
  | .file content => .ok content
  | .missing => .error "No such file or directory (os error 2)"
  | .garbled _ => .error "stream did not contain valid UTF-8"
  | .directory => .error "Is a directory (os error 21)"
  | .unreachable => .error "Not a directory (os error 20)"

/-- Why a directory cannot be made at the path, if it cannot. -/
def directoryProblem? : Disk → Option String
  | .missing | .directory => none
  | .file _ | .garbled _ => some "File exists (os error 17)"
  | .unreachable => some "Not a directory (os error 20)"

end Disk

end OperatorShell
