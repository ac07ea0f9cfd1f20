import OperatorShell.Program

/-!
# Command line

The program over the real file system.  Keys are read from the standard input, where
the end of a line stands for the return key.
-/

namespace OperatorShell

open Keys

/-- What is at a path of the file system. -/
def lookAt (path : String) : IO Disk := do
  try
    let bytes ← IO.FS.readBinFile path
    match String.fromUTF8? bytes with
    | some content => return .file content
    | none => return .garbled bytes.toList
  catch error =>
    match error with
    | .noFileOrDirectory .. => return .missing
    | .inappropriateType .. => return .directory
    | _ => return .unreachable

/-- The key that types a character. -/
def keyOfChar (character : Char) : KeyEvent :=
  .plain (if character = '\n' then .enter else .char character)

/-- The keys on the standard input, up to its end. -/
def typedKeys : IO (List KeyEvent) := do
  let text ← (← IO.getStdin).readToEnd
  return text.toList.map keyOfChar

/-- The real surroundings of the program. -/
def realWorld : World IO where
  device := .sound
  look := lookAt
  makeDirectory path := IO.FS.createDirAll path
  keys := typedKeys
  write path content := IO.FS.writeFile path content

/-- The places that the environment gives. -/
def environmentPlaces : IO Places := do
  return .ofEnvironment (← IO.getEnv "HOME") (← IO.getEnv "XDG_CONFIG_HOME")
    (← IO.getEnv "XDG_DATA_HOME")

end OperatorShell

open OperatorShell in
/-- Run the program. -/
def main (words : List String) : IO UInt32 := do
  let exit ← Program.run realWorld (← environmentPlaces) words
  IO.print exit.output
  IO.eprint exit.complaint
  return UInt32.ofNat exit.code
