import OperatorShell.Failure
import OperatorShell.Keys.Stack
import OperatorShell.Screen.Control

/-!
# The console

The console is what widgets share: the keys to come, the stack of key maps, the depth
of raw mode and everything written so far.  A widget is a state machine that reacts to
one key after another; `converse` feeds it with keys until it is done or there are no
more keys, and `modal` gives it raw mode and a key map of its own for that time.

A terminal can fail whoever writes to it, so everything that writes is an `Attempt`: a
fault ends the widget that meets it, whatever the widget was about to do.
-/

namespace OperatorShell

open Keys Screen

/-- What a key source delivers when it is asked once. -/
inductive Signal where
  /-- Nothing yet. -/
  | pending
  | key (event : KeyEvent)
  | failed (message : String)
  /-- The input is closed. -/
  | closed
  deriving DecidableEq, Repr

/-- How a terminal refuses a drawing. -/
structure Refusal where
  /-- Number of controls that it took before. -/
  taken : Nat
  message : String

/-- The outside of a terminal.  What it does next depends on everything written so far and
on how often it has failed. -/
structure Device where
  /-- How it refuses a drawing, if it does. -/
  refusal? : Drawing → Nat → Drawing → Option Refusal
  /-- Why it does not enter raw mode, if it does not. -/
  rawProblem? : Drawing → Nat → Option String

namespace Device

/-- A terminal that takes everything. -/
def sound : Device := ⟨fun _ _ _ => none, fun _ _ => none⟩

/-- A terminal without a raw mode of its own: wanting it changes nothing. -/
def headless (device : Device) : Device :=
  { device with rawProblem? := fun _ _ => none }

end Device

/-- What is left by something that writes: a state, and the fault that cut it short, if
there was one. -/
structure Attempt (ω : Type) where
  state : ω
  fault : Option Fault

/-- What a widget in a state of type `ω` makes of a key. -/
inductive Reaction (ω α : Type) where
  /-- It wants another key. -/
  | wait (state : ω)
  /-- It is done. -/
  | finish (result : Except ReadError α) (state : ω)

namespace Attempt

variable {ω ω' α : Type}

/-- Nothing was written, so nothing went wrong. -/
def done (state : ω) : Attempt ω := ⟨state, none⟩

/-- Look at the state as a part of another one. -/
def map (place : ω → ω') (attempt : Attempt ω) : Attempt ω' :=
  ⟨place attempt.state, attempt.fault⟩

/-- Write more, unless there was a fault. -/
def andThen (attempt : Attempt ω) (next : ω → Attempt ω) : Attempt ω :=
  match attempt.fault with
  | none => next attempt.state
  | some _ => attempt

/-- Go on to a result.  A fault is the result at once. -/
def into (attempt : Attempt ω) (goOn : ω → Except ReadError α × ω) :
    Except ReadError α × ω :=
  match attempt.fault with
  | none => goOn attempt.state
  | some fault => (.error (.fault fault), attempt.state)

/-- Go on to a reaction.  With a fault the widget is done. -/
def react (attempt : Attempt ω) (goOn : ω → Reaction ω α) : Reaction ω α :=
  match attempt.fault with
  | none => goOn attempt.state
  | some fault => .finish (.error (.fault fault)) attempt.state

/-- Wait for another key. -/
def wait (attempt : Attempt ω) : Reaction ω α := attempt.react .wait

/-- Be done with a result. -/
def finish (attempt : Attempt ω) (result : Except ReadError α) : Reaction ω α :=
  attempt.react (.finish result)

end Attempt

/-- What a terminal shows, and how it takes keys. -/
structure Display (device : Device := .sound) where
  keymaps : KeyMapStack
  /-- Number of widgets that want raw mode. -/
  rawDepth : Nat
  /-- Everything written so far. -/
  screen : Drawing
  /-- Number of failures so far. -/
  failures : Nat

namespace Display

variable {device : Device}

/-- A display without key maps and output. -/
def blank : Display device := ⟨.empty, 0, [], 0⟩

/-- The display after a failure. -/
def failed (display : Display device) (message : String) : Attempt (Display device) :=
  ⟨{ display with failures := display.failures + 1 }, some (.output message)⟩

/-- Write to the screen.  What was taken before a refusal stays there. -/
def draw (display : Display device) (drawing : Drawing) : Attempt (Display device) :=
  match device.refusal? display.screen display.failures drawing with
  | none => .done { display with screen := display.screen ++ drawing }
  | some refusal =>
      failed
        { display with screen := display.screen ++ drawing.take refusal.taken }
        refusal.message

/-- The meaning of a key press. -/
def dispatch (display : Display device) (event : KeyEvent) : Option Action :=
  display.keymaps.dispatch event

/-- Put a key map on top until its guard is released. -/
def enter (display : Display device) (map : KeyMap) : Guard × Display device :=
  let entered := display.keymaps.enter map
  (entered.1, { display with keymaps := entered.2 })

/-- Take away the key map of a guard. -/
def release (display : Display device) (guard : Guard) : Display device :=
  { display with keymaps := display.keymaps.release guard }

/-- Want raw mode.  The terminal enters it for the first one who does. -/
def enterRaw (display : Display device) : Attempt (Display device) :=
  let problem? := device.rawProblem? display.screen display.failures
  match problem?.filter fun _ => display.rawDepth == 0 with
  | none => .done { display with rawDepth := display.rawDepth + 1 }
  | some message => display.failed message

/-- Want raw mode no longer. -/
def leaveRaw (display : Display device) : Display device :=
  { display with rawDepth := display.rawDepth - 1 }

end Display

/-- A display and the keys to come.  No signal is left when the input is closed. -/
structure Console (device : Device := .sound) where
  display : Display device
  signals : List Signal

/-- A widget that answers with a value of type `α`. -/
structure Widget (ω α : Type) where
  react : ω → KeyEvent → Reaction ω α
  /-- What is left to do when there is no key. -/
  abandon : ω → Attempt ω

section Conversation

variable {ω α : Type}

/-- Give a widget up with an error, and leave the signals behind it. -/
def Widget.leave (widget : Widget ω α) (state : ω) (error : ReadError)
    (rest : List Signal) : Except ReadError α × ω × List Signal :=
  ((widget.abandon state).map (·, rest)).into fun left => (.error error, left)

/-- Feed a widget with keys until it is done. -/
def converse (widget : Widget ω α) :
    ω → List Signal → Except ReadError α × ω × List Signal
  | state, [] => widget.leave state .closed []
  | state, .pending :: rest => converse widget state rest
  | state, .closed :: rest => widget.leave state .closed rest
  | state, .failed message :: rest => widget.leave state (.fault (.source message)) rest
  | state, .key event :: rest =>
      match widget.react state event with
      | .wait state => converse widget state rest
      | .finish result state => (result, state, rest)

/-- Feed a widget with keys once it is on the screen. -/
def Widget.run (widget : Widget ω α) (opened : Attempt ω) (signals : List Signal) :
    Except ReadError α × ω × List Signal :=
  (opened.map (·, signals)).into fun begun => converse widget begun.1 begun.2

@[simp] theorem Widget.signals_leave (widget : Widget ω α) (state : ω)
    (error : ReadError) (rest : List Signal) :
    (widget.leave state error rest).2.2 = rest := by
  unfold leave Attempt.into
  split <;> rfl

/-- A widget that is given up has no answer. -/
theorem Widget.leave_ne_ok (widget : Widget ω α) (state : ω) (error : ReadError)
    (rest : List Signal) (answer : α) : (widget.leave state error rest).1 ≠ .ok answer := by
  unfold leave Attempt.into
  split <;> exact nofun

/-- The signals that a conversation leaves are the last ones of those it was given. -/
theorem converse_signals_suffix (widget : Widget ω α) (state : ω)
    (signals : List Signal) : (converse widget state signals).2.2 <:+ signals := by
  induction signals generalizing state with
  | nil => simp [converse]
  | cons signal rest ih =>
      cases signal with
      | pending => exact (ih state).trans (List.suffix_cons _ _)
      | closed | failed message =>
          rw [converse, Widget.signals_leave]
          exact List.suffix_cons _ _
      | key event =>
          unfold converse
          split
          · exact (ih _).trans (List.suffix_cons _ _)
          · exact List.suffix_cons _ _

theorem Widget.run_signals_suffix (widget : Widget ω α) (opened : Attempt ω)
    (signals : List Signal) : (widget.run opened signals).2.2 <:+ signals := by
  unfold run Attempt.into
  split
  · exact converse_signals_suffix ..
  · exact List.suffix_rfl

/-- A conversation with an answer has read at least one key. -/
theorem length_of_converse_ok {widget : Widget ω α} {state final : ω}
    {signals rest : List Signal} {answer : α}
    (answered : converse widget state signals = (.ok answer, final, rest)) :
    rest.length < signals.length := by
  have unanswered {state : ω} {error : ReadError} {left : List Signal} :
      widget.leave state error left ≠ (.ok answer, final, rest) := by
    intro same
    exact widget.leave_ne_ok state error left answer (congrArg Prod.fst same)
  induction signals generalizing state with
  | nil => exact absurd answered unanswered
  | cons signal more ih =>
      cases signal with
      | pending => exact Nat.lt_succ_of_lt (ih answered)
      | closed | failed message => exact absurd answered unanswered
      | key event =>
          unfold converse at answered
          split at answered
          · exact Nat.lt_succ_of_lt (ih answered)
          · simp only [Prod.mk.injEq] at answered
            simp [answered.2.2]

theorem Widget.length_of_run_ok {widget : Widget ω α} {opened : Attempt ω} {final : ω}
    {signals rest : List Signal} {answer : α}
    (answered : widget.run opened signals = (.ok answer, final, rest)) :
    rest.length < signals.length := by
  unfold run Attempt.into at answered
  split at answered
  · exact length_of_converse_ok answered
  · cases congrArg Prod.fst answered

end Conversation

namespace Console

variable {device : Device} {α : Type}

/-- A console with keys to come. -/
def ofKeys (keys : List KeyEvent) : Console device :=
  ⟨.blank, keys.map .key⟩

/-- The keys that have not been read. -/
def keysLeft (console : Console device) : Nat :=
  (console.signals.filter fun signal =>
    match signal with
    | .key _ => true
    | _ => false).length

/-- Write to the screen. -/
def draw (console : Console device) (drawing : Drawing) : Attempt (Console device) :=
  (console.display.draw drawing).map (⟨·, console.signals⟩)

/-- Print a text and end the line.  Every line feed in it ends a line as well. -/
def writeLine (console : Console device) (text : String) : Attempt (Console device) :=
  console.draw
    ((text.toList.splitOn '\n').flatMap fun line =>
      [.text (String.ofList line), .lineBreak])

/-- Want raw mode. -/
def enterRaw (console : Console device) : Attempt (Console device) :=
  console.display.enterRaw.map (⟨·, console.signals⟩)

/-- Talk in raw mode, whatever comes of it. -/
def raw (console : Console device)
    (talk : Console device → Except ReadError α × Console device) :
    Except ReadError α × Console device :=
  console.enterRaw.into fun console =>
    let (result, console) := talk console
    (result, { console with display := console.display.leaveRaw })

/-- Talk with a key map on top, whatever comes of it. -/
def within (console : Console device) (map : KeyMap)
    (talk : Console device → Except ReadError α × Console device) :
    Except ReadError α × Console device :=
  let (guard, display) := console.display.enter map
  let (result, console) := talk { console with display := display }
  (result, { console with display := console.display.release guard })

/-- Talk in raw mode with a key map on top. -/
def modal (console : Console device) (map : KeyMap)
    (talk : Console device → Except ReadError α × Console device) :
    Except ReadError α × Console device :=
  console.raw fun console => console.within map talk

@[simp] theorem signals_writeLine (console : Console device) (text : String) :
    (console.writeLine text).state.signals = console.signals := rfl

/-- What a talk in raw mode leaves of the signals, it leaves of them in any mode. -/
theorem signals_raw_suffix (console : Console device)
    {talk : Console device → Except ReadError α × Console device}
    (kept : ∀ console, (talk console).2.signals <:+ console.signals) :
    (console.raw talk).2.signals <:+ console.signals := by
  unfold raw Attempt.into
  split
  · exact kept console.enterRaw.state
  · exact List.suffix_rfl

theorem signals_modal_suffix (console : Console device) (map : KeyMap)
    {talk : Console device → Except ReadError α × Console device}
    (kept : ∀ console, (talk console).2.signals <:+ console.signals) :
    (console.modal map talk).2.signals <:+ console.signals :=
  console.signals_raw_suffix fun console =>
    kept { console with display := (console.display.enter map).2 }

end Console

end OperatorShell
