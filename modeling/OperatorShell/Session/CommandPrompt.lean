import OperatorShell.Command.Completion
import OperatorShell.Settings

/-!
# The command prompt

The widget that reads one command line: editing, history, and completion on Tab.
Several candidates open a picker on top of the line; a key that the picker does not
know closes it and is then handled by the prompt itself.  A completion that takes
longer than the debounce time shows that it is busy.
-/

namespace OperatorShell.Session

open Command Edit Keys Line Text

variable {σ : Type} {device : Device}

/-- A picker on top of the command line. -/
structure OpenPicker where
  picker : Picker
  rows : Nat
  guard : Guard
  /-- The text that is being completed. -/
  before : List Char

/-- A command prompt between two keys. -/
structure PromptState (σ : Type) (device : Device := .sound) where
  editor : Editor
  /-- The line that the operator left to go through the history. -/
  draft : List Char
  history : History
  store : σ
  display : Display device
  completion : Option OpenPicker

/-- Put a candidate in the place of the token that is being typed at the end of a
text, quoted if need be and with a space after it. -/
def applyCandidate (buffer : Buffer) (before : List Char) (candidate : Candidate) :
    Buffer :=
  let kept :=
    match (parse before).tokens.getLast? with
    | some last =>
        if last.stop = byteLength before then takeBytes last.start before else before
    | none => before
  buffer.splice kept.length before.length (quote candidate.value.toList ++ [' '])

/-- Candidates in the order of their values. -/
def sortByValue (candidates : List Candidate) : List Candidate :=
  candidates.mergeSort fun left right => !decide (right.value < left.value)

namespace PromptState

/-- Draw the line, or something about it. -/
def draw (state : PromptState σ device) (drawing : Editor → Screen.Drawing) :
    Attempt (PromptState σ device) :=
  (state.display.draw (drawing state.editor)).map fun display =>
    { state with display := display }

/-- Draw the line, or something about it, if there is need to. -/
def drawIf (state : PromptState σ device) (needed : Bool)
    (drawing : Editor → Screen.Drawing) : Attempt (PromptState σ device) :=
  if needed then state.draw drawing else .done state

/-- Change the buffer. -/
def edit (state : PromptState σ device) (change : Buffer → Buffer) :
    PromptState σ device :=
  { state with editor := state.editor.edit change }

/-- The suggestion that belongs to a buffer: what the history adds to a text with the
cursor at its end. -/
def suggestionFor (history : History) (buffer : Buffer) : Option (List Char) :=
  if buffer.cursor = buffer.length then history.suggestion buffer.text else none

/-- Bring the suggestion up to date and draw the line. -/
def refresh (state : PromptState σ device) : Attempt (PromptState σ device) :=
  (state.edit fun buffer =>
    buffer.suggest (suggestionFor state.history buffer)).draw Editor.render

/-- End the editing with an outcome. -/
def finish (state : PromptState σ device) (result : Except ReadError String) :
    Reaction (PromptState σ device) String :=
  ({ state with editor := state.editor.finish }.draw Editor.render).finish result

/-- Show the next older entry of the history. -/
def showOlder (state : PromptState σ device) : PromptState σ device :=
  let draft :=
    if state.history.scroll = none then state.editor.buffer.text else state.draft
  let (entry, history) := state.history.previous
  let moved := { state with draft := draft, history := history }
  match entry with
  | some entry => moved.edit (·.replace entry.toList)
  | none => moved

/-- Show the next newer entry of the history, or the draft after the newest. -/
def showNewer (state : PromptState σ device) : PromptState σ device :=
  if state.history.scroll = none then state
  else
    let (entry, history) := state.history.next
    let text := (entry.map String.toList).getD state.draft
    { state with history := history }.edit (·.replace text)

/-- Let the operator pick from several candidates. -/
def openPicker (state : PromptState σ device) (pageSize : Nat) (before : List Char)
    (candidates : List Candidate) : Attempt (PromptState σ device) :=
  let (guard, display) := state.display.enter .picker
  let opened :=
    Picking.start (.ofCandidates (sortByValue candidates) pageSize true) display
  match opened.fault with
  | none =>
      .done
        { state with
          display := opened.state.display
          completion := some ⟨opened.state.picker, opened.state.rows, guard, before⟩ }
  | some fault =>
      ⟨{ state with display := opened.state.display.release guard }, some fault⟩

/-- Use what a completion has found. -/
def useCandidates (state : PromptState σ device) (pageSize : Nat)
    (before : List Char) : List Candidate → Attempt (PromptState σ device)
  | [] => state.refresh
  | [candidate] => (state.edit (applyCandidate · before candidate)).refresh
  | candidates => state.openPicker pageSize before candidates

/-- Whether a completion takes so long that it shows it is busy. -/
def isBusy (settings : Settings) (plan : Plan σ) (line : String) (store : σ) : Bool :=
  match plan.delay? line store with
  | some delay => settings.busyDebounce < delay
  | none => false

/-- Use the answer to a completion. -/
def useAnswer (state : PromptState σ device) (pageSize : Nat) (before : List Char) :
    Except ProviderError (List Candidate) → Attempt (PromptState σ device)
  | .error error => (state.draw (·.showError error.message)).andThen refresh
  | .ok candidates => state.useCandidates pageSize before candidates

/-- Complete the text before the cursor. -/
def complete (registry : Registry σ) (settings : Settings)
    (state : PromptState σ device) : Attempt (PromptState σ device) :=
  let before := state.editor.buffer.before
  let line := String.ofList before
  let plan := plan registry state.store before
  let busy := isBusy settings plan line state.store
  (state.drawIf busy Editor.renderBusy).andThen fun waiting =>
    let (answer, store) := plan.run line state.store
    ({ waiting with store := store }.drawIf busy Editor.render).andThen fun waited =>
      waited.useAnswer settings.pageSize before answer

/-- Carry out an action on the line. -/
def act (registry : Registry σ) (settings : Settings) (state : PromptState σ device) :
    Action → Reaction (PromptState σ device) String
  | .interrupt => state.finish (.error .interrupted)
  | .submit =>
      let line := state.editor.buffer.text
      if isBlankText line then (state.draw Editor.blink).wait
      else state.finish (.ok (String.ofList line))
  | .endOfInput =>
      if state.editor.buffer.text = [] then state.finish (.error .closed)
      else (state.edit Buffer.deleteRight).refresh.wait
  | .historyPrevious => state.showOlder.refresh.wait
  | .historyNext => state.showNewer.refresh.wait
  | .complete => (state.complete registry settings).wait
  | .insert character =>
      let fresh := { state with history := state.history.resetScroll }
      (fresh.edit (·.insert character)).refresh.wait
  | action => { state with editor := state.editor.apply action }.refresh.wait

/-- React to a key on the line. -/
def reactLine (registry : Registry σ) (settings : Settings)
    (state : PromptState σ device) (event : KeyEvent) :
    Reaction (PromptState σ device) String :=
  match state.display.dispatch event with
  | some action => state.act registry settings action
  | none => .wait state

/-- The picker as it is on the screen. -/
def picking (state : PromptState σ device) (completion : OpenPicker) :
    Picking device :=
  ⟨completion.picker, completion.rows, state.display⟩

/-- The prompt with a picker as it is on the screen now. -/
def withPicking (state : PromptState σ device) (completion : OpenPicker)
    (picking : Picking device) : PromptState σ device :=
  { state with
    display := picking.display
    completion :=
      some { completion with picker := picking.picker, rows := picking.rows } }

/-- Take the closed picker off the prompt. -/
def closePicker (state : PromptState σ device) (completion : OpenPicker)
    (picking : Picking device) : PromptState σ device :=
  { state with
    display := picking.display.release completion.guard
    completion := none }

/-- Go on after the picker has closed. -/
def resume (registry : Registry σ) (settings : Settings) (state : PromptState σ device)
    (before : List Char) :
    Except ReadError PickerOutcome → Reaction (PromptState σ device) String
  | .error error => .finish (.error error) state
  | .ok (.selected candidate) =>
      (state.edit (applyCandidate · before candidate)).refresh.wait
  | .ok .cancelled => state.refresh.wait
  | .ok (.escaped event) =>
      state.refresh.react fun state => state.reactLine registry settings event

/-- React to a key. -/
def react (registry : Registry σ) (settings : Settings) (state : PromptState σ device)
    (event : KeyEvent) : Reaction (PromptState σ device) String :=
  match state.completion with
  | none => state.reactLine registry settings event
  | some completion =>
      match Picking.react (state.picking completion) event with
      | .wait picking => .wait (state.withPicking completion picking)
      | .finish result picking =>
          (state.closePicker completion picking).resume registry settings
            completion.before result

/-- Clear away a picker when there are no more keys. -/
def abandon (state : PromptState σ device) : Attempt (PromptState σ device) :=
  match state.completion with
  | none => .done state
  | some completion =>
      (state.picking completion).clear.map (state.closePicker completion)

/-- The command prompt as a widget. -/
def widget (registry : Registry σ) (settings : Settings) :
    Widget (PromptState σ device) String :=
  ⟨react registry settings, abandon⟩

/-- A prompt with an empty line. -/
def start (settings : Settings) (history : History) (store : σ)
    (display : Display device) : Attempt (PromptState σ device) :=
  draw ⟨.ofHeader settings.prompt none, [], history.resetScroll, store, display, none⟩
    Editor.render

end PromptState

end OperatorShell.Session
