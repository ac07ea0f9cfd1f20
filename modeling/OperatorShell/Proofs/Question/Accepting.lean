import OperatorShell.Proofs.Question.Masked
import OperatorShell.Proofs.Session.PickerClosing
import OperatorShell.Proofs.Session.PromptInterrupt

/-!
# The answer that a prompt accepts

A prompt is a line that keys edit until Return finds an answer that passes the check.  Which line
that is can be told from the keys alone: they are folded over the line, and the suggestion is
computed anew after every edit.  A refused Return changes nothing, Ctrl+C ends the prompt without an
answer, and no signal is read behind the one that ends it.
-/

namespace OperatorShell

open Edit Keys

namespace Keys

/-- The key press is Return. -/
def KeyEvent.IsReturn (event : KeyEvent) : Prop := chord event = "return".toList

/-- While a line is edited, a key with a meaning interrupts, submits or edits. -/
theorem KeyMap.isEdit_of_lookup_editing {event : KeyEvent} {action : Action}
    (meant : editing.lookup event = some action) :
    action = .interrupt ∨ action = .submit ∨ (Editor.editOf? action).isSome := by
  have every : ∀ binding ∈ editing.bindings,
      binding.2 = .interrupt ∨ binding.2 = .submit ∨ (Editor.editOf? binding.2).isSome := by
    decide
  cases bound : editing.bindings.lookup (String.ofList (chord event)) with
  | some other =>
      rw [lookup, bound] at meant
      obtain rfl := Option.some.inj meant
      exact every _ (exists_mem_of_lookup_bindings bound)
  | none =>
      rw [lookup_editing_of_unbound bound] at meant
      obtain ⟨character, -, rfl⟩ := Option.map_eq_some_iff.mp meant
      exact .inr (.inr rfl)

end Keys

/-- Keys have the meaning that they have while a line is edited. -/
def Editing.MapOnTop (editing : Editing) : Prop :=
  editing.display.keymaps.frames.head? = some .editing

theorem Editing.MapOnTop.dispatch_eq {editing : Editing} (onTop : editing.MapOnTop)
    (event : KeyEvent) : editing.display.dispatch event = KeyMap.editing.lookup event :=
  KeyMapStack.dispatch_of_head? onTop event

namespace Prompt

/-- The prompt as a widget. -/
abbrev widget (prompt : Prompt) : Widget Editing String := ⟨prompt.react, .done⟩

@[simp] theorem react_widget (prompt : Prompt) : prompt.widget.react = prompt.react := rfl

/-- The line after a signal.  A key that stands for an edit changes it, and the suggestion then goes
with the text; nothing else changes it. -/
def heed (prompt : Prompt) (line : Editor) : Signal → Editor
  | .key event =>
      match (KeyMap.editing.lookup event).bind Editor.editOf? with
      | some change => prompt.refresh (line.edit change)
      | none => line
  | .pending | .failed _ | .closed => line

/-- The line after signals. -/
def lineAfter (prompt : Prompt) (line : Editor) (signals : List Signal) : Editor :=
  signals.foldl prompt.heed line

/-- The prompt goes on after a signal: Ctrl+C was not pressed, and Return only for an answer that
does not pass the check. -/
def GoesOn (prompt : Prompt) (line : Editor) : Signal → Prop
  | .pending => True
  | .key event =>
      ¬event.IsControlC ∧
        (event.IsReturn → ∃ failure, prompt.check (prompt.answer line) = .error failure)
  | .failed _ | .closed => False

/-- The prompt goes on after each of these signals. -/
def GoesThrough (prompt : Prompt) (line : Editor) : List Signal → Prop
  | [] => True
  | signal :: rest => prompt.GoesOn line signal ∧ prompt.GoesThrough (prompt.heed line signal) rest

/-- The result with which a signal ends a prompt. -/
inductive EndsWith (prompt : Prompt) (line : Editor) : Signal → Except ReadError String → Prop
  | accepted {event : KeyEvent} :
      event.IsReturn → prompt.check (prompt.answer line) = .ok () →
        EndsWith prompt line (.key event) (.ok (prompt.answer line))
  | interrupted {event : KeyEvent} :
      event.IsControlC → EndsWith prompt line (.key event) (.error .interrupted)
  | closed : EndsWith prompt line .closed (.error .closed)
  | failed (message : String) :
      EndsWith prompt line (.failed message) (.error (.fault (.source message)))

/-- The result of reading signals, and the signals that are left. -/
inductive ReadsTo (prompt : Prompt) (line : Editor) :
    List Signal → Except ReadError String → List Signal → Prop
  | exhausted {signals : List Signal} :
      prompt.GoesThrough line signals → ReadsTo prompt line signals (.error .closed) []
  | decided (taken : List Signal) {rest : List Signal} {signal : Signal}
      {result : Except ReadError String} :
      prompt.GoesThrough line taken →
        prompt.EndsWith (prompt.lineAfter line taken) signal result →
          ReadsTo prompt line (taken ++ signal :: rest) result rest

section Signals

variable {prompt : Prompt} {line : Editor}

end Signals

section Reactions

variable {prompt : Prompt} {editing : Editing} {event : KeyEvent}

theorem react_of_controlC (onTop : editing.MapOnTop) (pressed : event.IsControlC) :
    prompt.react editing event =
      .finish (.error .interrupted) (editing.update Editor.finish).state := by
  have meant := (KeyMap.bindsOnly_controlC_editing.lookup_eq_iff event).mpr pressed
  rw [react, onTop.dispatch_eq, meant]
  rfl

theorem react_of_accepted (onTop : editing.MapOnTop) (pressed : event.IsReturn)
    (checked : prompt.check (prompt.answer editing.editor) = .ok ()) :
    prompt.react editing event =
      .finish (.ok (prompt.answer editing.editor))
        (editing.update (·.finishWith (prompt.answer editing.editor).toList)).state := by
  have meant := (KeyMap.bindsOnly_return_editing.lookup_eq_iff event).mpr pressed
  rw [react, onTop.dispatch_eq, meant]
  simp only [checked]
  rfl

theorem react_of_refused (onTop : editing.MapOnTop) (pressed : event.IsReturn) {failure : Failure}
    (checked : prompt.check (prompt.answer editing.editor) = .error failure) :
    prompt.react editing event = .wait (editing.draw (·.showError failure.describe)).state := by
  have meant := (KeyMap.bindsOnly_return_editing.lookup_eq_iff event).mpr pressed
  rw [react, onTop.dispatch_eq, meant]
  simp only [checked]
  rfl

/-- While a prompt goes on, its line is the one that the keys lead to. -/
theorem react_of_goesOn (onTop : editing.MapOnTop)
    (goes : prompt.GoesOn editing.editor (.key event)) :
    ∃ next, prompt.react editing event = .wait next ∧
      next.editor = prompt.heed editing.editor (.key event) ∧ next.MapOnTop := by
  obtain ⟨notInterrupted, refused⟩ := goes
  by_cases submits : event.IsReturn
  · obtain ⟨failure, checked⟩ := refused submits
    have meant := (KeyMap.bindsOnly_return_editing.lookup_eq_iff event).mpr submits
    rw [react_of_refused onTop submits checked, heed, meant]
    exact ⟨_, rfl, rfl, onTop⟩
  · have notSubmitted := mt (KeyMap.bindsOnly_return_editing.lookup_eq_iff event).mp submits
    have notStopped := mt (KeyMap.bindsOnly_controlC_editing.lookup_eq_iff event).mp notInterrupted
    rw [react, onTop.dispatch_eq, heed]
    cases meant : KeyMap.editing.lookup event with
    | none => exact ⟨_, rfl, rfl, onTop⟩
    | some action =>
        rcases KeyMap.isEdit_of_lookup_editing meant with rfl | rfl | edits
        · exact absurd meant notStopped
        · exact absurd meant notSubmitted
        · cases action <;> cases edits <;> exact ⟨_, rfl, rfl, onTop⟩

/-- The line of a prompt that goes through signals is the one that they lead to. -/
theorem exists_after_of_goesThrough (onTop : editing.MapOnTop) {signals : List Signal}
    (through : prompt.GoesThrough editing.editor signals) :
    ∃ later, prompt.widget.after editing signals = some later ∧
      later.editor = prompt.lineAfter editing.editor signals ∧ later.MapOnTop := by
  induction signals generalizing editing with
  | nil => exact ⟨editing, rfl, rfl, onTop⟩
  | cons signal rest ih =>
      obtain ⟨goes, through⟩ := through
      cases signal with
      | pending => exact ih onTop through
      | closed | failed message => exact goes.elim
      | key event =>
          obtain ⟨next, reacted, next_eq, nextOnTop⟩ := react_of_goesOn onTop goes
          rw [← next_eq] at through
          rw [Widget.after, react_widget, reacted, lineAfter, List.foldl_cons, ← next_eq]
          exact ih nextOnTop through

/-- A prompt that is asked for a signal that ends it has the result of that signal. -/
theorem exists_converse_of_endsWith (onTop : editing.MapOnTop) {signal : Signal}
    {result : Except ReadError String} (ends : prompt.EndsWith editing.editor signal result)
    (rest : List Signal) :
    ∃ last, converse prompt.widget editing (signal :: rest) = (result, last, rest) := by
  cases ends with
  | accepted submits checked =>
      rw [converse, react_widget, react_of_accepted onTop submits checked]
      exact ⟨_, rfl⟩
  | interrupted pressed =>
      rw [converse, react_widget, react_of_controlC onTop pressed]
      exact ⟨_, rfl⟩
  | closed | failed message => exact ⟨_, rfl⟩

theorem ReadsTo.exists_converse_eq (onTop : editing.MapOnTop) {signals rest : List Signal}
    {result : Except ReadError String}
    (reads : prompt.ReadsTo editing.editor signals result rest) :
    ∃ last, converse prompt.widget editing signals = (result, last, rest) := by
  cases reads with
  | exhausted through =>
      obtain ⟨later, reached, -, -⟩ := exists_after_of_goesThrough onTop through
      have ended := converse_append reached []
      rw [List.append_nil] at ended
      exact ⟨later, ended⟩
  | decided taken through ends =>
      obtain ⟨later, reached, later_eq, laterOnTop⟩ := exists_after_of_goesThrough onTop through
      rw [← later_eq] at ends
      rw [converse_append reached]
      exact exists_converse_of_endsWith laterOnTop ends _

end Reactions

/-- Reading is a conversation with the prompt; the mode around it changes nothing about it. -/
theorem read_eq (prompt : Prompt) (display : Display) (signals : List Signal) :
    let ended := converse prompt.widget (prompt.opened display) signals
    (prompt.read ⟨display, signals⟩).1 = ended.1 ∧
      (prompt.read ⟨display, signals⟩).2.signals = ended.2.2 :=
  ⟨rfl, rfl⟩

end Prompt

end OperatorShell
