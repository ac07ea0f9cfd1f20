import OperatorShell.Console

/-!
# Reading keys concurrently

Several tasks can hold the same terminal and wait for a key at the same time.  A
reader that starts takes the key source out of the terminal and puts it back when it
is done, so a reader that starts in between finds no source and fails without taking a
key.  A reader makes one step every time it is polled.
-/

namespace OperatorShell

open Keys

/-- A terminal, as far as it is shared between readers. -/
structure Terminal where
  /-- What the key source will deliver; `none` while a reader has it. -/
  source : Option (List Signal)
  deriving DecidableEq, Repr

/-- A reader of one key. -/
inductive KeyReader where
  /-- It has not been polled yet. -/
  | idle
  /-- It has the key source and waits. -/
  | waiting (source : List Signal)
  | finished (result : Except ReadError KeyEvent)

namespace KeyReader

/-- Ask a key source once: nothing yet, or a result, and what it will deliver after
that. -/
def ask : List Signal → Option (Except ReadError KeyEvent) × List Signal
  | [] => (some (.error .closed), [])
  | .pending :: rest => (none, rest)
  | .key event :: rest => (some (.ok event), rest)
  | .failed message :: rest => (some (.error (.fault (.source message))), rest)
  | .closed :: rest => (some (.error .closed), rest)

/-- Ask the key source that the reader has. -/
def askSource (source : List Signal) : KeyReader × Terminal :=
  match ask source with
  | (none, source) => (.waiting source, ⟨none⟩)
  | (some result, source) => (.finished result, ⟨some source⟩)

/-- Let a reader make a step. -/
def poll (reader : KeyReader) (terminal : Terminal) : KeyReader × Terminal :=
  match reader with
  | .idle =>
      match terminal.source with
      | some source => askSource source
      | none => (.finished (.error (.fault .busy)), terminal)
  | .waiting source => askSource source
  | .finished result => (.finished result, terminal)

/-- The result of a reader that is done. -/
def result? : KeyReader → Option (Except ReadError KeyEvent)
  | .finished result => some result
  | _ => none

/-- Poll readers in turn until all are done. -/
def pollAll : List KeyReader → Terminal → List KeyReader × Terminal
  | [], terminal => ([], terminal)
  | reader :: rest, terminal =>
      let (reader, terminal) := reader.poll terminal
      let (rest, terminal) := pollAll rest terminal
      (reader :: rest, terminal)

/-- Poll readers in turn, a number of times. -/
def rounds : Nat → List KeyReader → Terminal → List KeyReader × Terminal
  | 0, readers, terminal => (readers, terminal)
  | count + 1, readers, terminal =>
      let (readers, terminal) := pollAll readers terminal
      rounds count readers terminal

end KeyReader

namespace Terminal

/-- Read a key alone, however long it takes. -/
def readKey : List Signal → Except ReadError KeyEvent × List Signal
  | [] => (.error .closed, [])
  | .pending :: rest => readKey rest
  | .key event :: rest => (.ok event, rest)
  | .failed message :: rest => (.error (.fault (.source message)), rest)
  | .closed :: rest => (.error .closed, rest)

end Terminal

end OperatorShell
