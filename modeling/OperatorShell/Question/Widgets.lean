import OperatorShell.Edit.Editor
import OperatorShell.Picker
import OperatorShell.Question.Basic
import OperatorShell.Text.Record

/-!
# Asking questions

How the console puts each kind of question: a line of text with an optional check, yes
or no, and one of several candidates.  Every question runs in raw mode and with a key
map of its own.
-/

namespace OperatorShell

open Edit Keys Text

variable {device : Device}

/-- An editor on the screen. -/
structure Editing (device : Device := .sound) where
  editor : Editor
  display : Display device

namespace Editing

/-- Draw something below or in place of the line. -/
def draw (editing : Editing device) (drawing : Editor → Screen.Drawing) :
    Attempt (Editing device) :=
  (editing.display.draw (drawing editing.editor)).map (⟨editing.editor, ·⟩)

/-- Change the editor and draw the line. -/
def update (editing : Editing device) (change : Editor → Editor) :
    Attempt (Editing device) :=
  draw { editing with editor := change editing.editor } Editor.render

/-- Put an editor on the screen. -/
def start (editor : Editor) (display : Display device) : Attempt (Editing device) :=
  draw ⟨editor, display⟩ Editor.render

end Editing

/-- Feed a widget that edits a line with the keys of a console. -/
def Console.edit {α : Type} (console : Console device) (editor : Editor)
    (react : Editing device → KeyEvent → Reaction (Editing device) α) :
    Except ReadError α × Console device :=
  let widget : Widget (Editing device) α := ⟨react, .done⟩
  let (result, editing, signals) :=
    widget.run (Editing.start editor console.display) console.signals
  (result, ⟨editing.display, signals⟩)

/-- Editing leaves the last ones of the keys that were to come. -/
theorem Console.signals_edit_suffix {α : Type} (console : Console device)
    (editor : Editor) (react : Editing device → KeyEvent → Reaction (Editing device) α) :
    (console.edit editor react).2.signals <:+ console.signals :=
  Widget.run_signals_suffix ..

namespace Prompt

/-- What is suggested after a text: the default for an unmasked empty line, or what
the prompt makes of the text. -/
def suggestionFor (prompt : Prompt) (text : List Char) : Option (List Char) :=
  let computed :=
    (prompt.suggest.bind fun suggest => suggest (String.ofList text)).map String.toList
  if text = [] ∧ prompt.mask = none then
    match prompt.default with
    | some default => some default.toList
    | none => computed
  else computed

/-- The answer that an editor stands for: its text, or the default for no text. -/
def answer (prompt : Prompt) (editor : Editor) : String :=
  if editor.buffer.text = [] then prompt.default.getD ""
  else String.ofList editor.buffer.text

/-- Check an answer. -/
def check (prompt : Prompt) (answer : String) : Except Failure Unit :=
  match prompt.validator with
  | some validator => validator answer
  | none => .ok ()

/-- Bring the suggestion up to date with the text. -/
def refresh (prompt : Prompt) (editor : Editor) : Editor :=
  editor.edit fun buffer => buffer.suggest (prompt.suggestionFor buffer.text)

/-- React to a key. -/
def react (prompt : Prompt) (editing : Editing device) (event : KeyEvent) :
    Reaction (Editing device) String :=
  match editing.display.dispatch event with
  | some .interrupt => (editing.update Editor.finish).finish (.error .interrupted)
  | some .submit =>
      let answer := prompt.answer editing.editor
      match prompt.check answer with
      | .error failure => (editing.draw (·.showError failure.describe)).wait
      | .ok () => (editing.update (·.finishWith answer.toList)).finish (.ok answer)
  | some action =>
      (editing.update fun editor => prompt.refresh (editor.apply action)).wait
  | none => .wait editing

/-- Ask until an answer is accepted. -/
def read (prompt : Prompt) (console : Console device) :
    Except ReadError String × Console device :=
  console.modal .editing fun console =>
    console.edit (prompt.refresh (.ofHeader prompt.header prompt.mask)) prompt.react

/-- The prompt in a log. -/
def «show» (prompt : Prompt) : String :=
  showRecord "Prompt"
    [("header", quoted prompt.header), ("default", showOption (prompt.default.map quoted)),
     ("masked", showBool prompt.mask.isSome)]

end Prompt

namespace Confirmation

/-- The question with a hint at the answer that Return gives. -/
def header (question : String) (default : Bool) : String :=
  question ++ (if default then " (Y/n) " else " (y/N) ")

/-- The answer as it is shown. -/
def answerText (answer : Bool) : String := if answer then "yes" else "no"

/-- The answer that an action gives, if it gives one. -/
def answerOf? (default : Bool) : Action → Option Bool
  | .answer answer => some answer
  | .submit => some default
  | _ => none

/-- React to a key. -/
def react (default : Bool) (editing : Editing device) (event : KeyEvent) :
    Reaction (Editing device) Bool :=
  match editing.display.dispatch event with
  | some .interrupt => (editing.update Editor.finish).finish (.error .interrupted)
  | action =>
      match action.bind (answerOf? default) with
      | some answer =>
          (editing.update (·.finishWith (answerText answer).toList)).finish (.ok answer)
      | none => .wait editing

/-- Ask for yes or no. -/
def read (question : String) (default : Bool) (console : Console device) :
    Except ReadError Bool × Console device :=
  console.modal .confirmation fun console =>
    console.edit (.ofHeader (header question default) none) (react default)

end Confirmation

namespace ChoiceList

/-- Show the end of a choice. -/
def close (editor : Editor) (console : Console device)
    (result : Except ReadError PickerOutcome) :
    Except ReadError (Option Candidate) × Console device :=
  match result with
  | .ok (.selected candidate) =>
      (console.draw (editor.finishWith candidate.value.toList).render).into fun console =>
        (.ok (some candidate), console)
  | .ok _ => (console.draw editor.finish.render).into fun console => (.ok none, console)
  | .error error =>
      (console.draw editor.finish.render).into fun console => (.error error, console)

/-- Let the operator choose a candidate.  With none to choose from there is no
answer. -/
def read (header : String) (candidates : List Candidate) (pageSize : Nat)
    (console : Console device) :
    Except ReadError (Option Candidate) × Console device :=
  if candidates.isEmpty then (.ok none, console)
  else
    console.raw fun console =>
      let editor := Editor.ofHeader header none
      (console.draw editor.render).into fun console =>
        let (result, _, console) :=
          (Picker.ofCandidates candidates pageSize false).pick console
        close editor console result

@[simp] theorem signals_close (editor : Editor) (console : Console device)
    (result : Except ReadError PickerOutcome) :
    (close editor console result).2.signals = console.signals := by
  unfold close Attempt.into
  split <;> split <;> rfl

/-- A choice leaves the last ones of the keys that were to come. -/
theorem signals_read_suffix (header : String) (candidates : List Candidate)
    (pageSize : Nat) (console : Console device) :
    (read header candidates pageSize console).2.signals <:+ console.signals := by
  unfold read
  split
  · exact List.suffix_rfl
  · apply console.signals_raw_suffix
    intro console
    dsimp only
    unfold Attempt.into
    split
    · simp only [signals_close]
      exact (Picker.ofCandidates candidates pageSize false).signals_pick_suffix _
    · exact List.suffix_rfl

end ChoiceList

/-- How questions look. -/
structure AskStyle where
  /-- Rows on a page of candidates. -/
  pageSize : Nat
  /-- Glyph drawn for the characters of a secret. -/
  maskGlyph : Char
  deriving DecidableEq, Repr

namespace Question

/-- Put a question. -/
def put (style : AskStyle) :
    (question : Question) → Console device →
      Except ReadError question.Answer × Console device
  | .confirm question default => Confirmation.read question default
  | .ask prompt => prompt.read
  | .secret header => { Prompt.ofHeader header with mask := some style.maskGlyph }.read
  | .choose header candidates => ChoiceList.read header candidates style.pageSize

/-- A question leaves the last ones of the keys that were to come. -/
theorem signals_put_suffix (style : AskStyle) (question : Question)
    (console : Console device) :
    (question.put style console).2.signals <:+ console.signals := by
  cases question with
  | confirm question default =>
      exact console.signals_modal_suffix _ fun console => console.signals_edit_suffix ..
  | ask prompt =>
      exact console.signals_modal_suffix _ fun console => console.signals_edit_suffix ..
  | secret header =>
      exact console.signals_modal_suffix _ fun console => console.signals_edit_suffix ..
  | choose header candidates => exact ChoiceList.signals_read_suffix ..

end Question

end OperatorShell
