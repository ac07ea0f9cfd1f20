import OperatorShell.Edit.Editor

/-!
# What edits change

No edit ends the editing.  A motion leaves the text alone, except that going on at the end of the
text makes the suggestion part of it.
-/

namespace OperatorShell

namespace Keys

/-- The action is a motion that never goes on into the suggestion. -/
def Action.IsPlainMotion (action : Action) : Prop :=
  action = .moveLeft ∨ action = .moveHome ∨ action = .moveWordLeft ∨ action = .moveWordRight
  deriving Decidable

/-- The action is a motion that goes on into the suggestion from the end of the text. -/
def Action.GoesOnAtEnd (action : Action) : Prop := action = .moveRight ∨ action = .moveEnd

end Keys

namespace Edit

open Keys

namespace Buffer

variable {buffer : Buffer}

/-- An edit leaves alone what its change leaves alone. -/
theorem edit_keeps {β : Type} (measure : Buffer → β) {change : Buffer → Buffer}
    (kept : ∀ buffer, measure (change buffer) = measure buffer) (buffer : Buffer) :
    measure (buffer.edit change) = measure buffer := by
  unfold edit
  split
  · exact kept buffer
  · rfl

section Status

@[simp] theorem status_acceptSuggestion (buffer : Buffer) :
    buffer.acceptSuggestion.status = buffer.status := by
  unfold acceptSuggestion
  split <;> rfl

@[simp] theorem status_replace (buffer : Buffer) (text : List Char) :
    (buffer.replace text).status = buffer.status := by
  apply edit_keeps status
  exact fun _ => rfl

@[simp] theorem status_splice (buffer : Buffer) (start stop : Nat) (inserted : List Char) :
    (buffer.splice start stop inserted).status = buffer.status := by
  apply edit_keeps status
  exact fun _ => rfl

@[simp] theorem status_suggest (buffer : Buffer) (suggestion : Option (List Char)) :
    (buffer.suggest suggestion).status = buffer.status := by
  apply edit_keeps status
  exact fun _ => rfl

/-- An action on the line does not end the editing. -/
theorem status_of_editOf? {action : Action} {change : Buffer → Buffer}
    (edits : Editor.editOf? action = some change) (buffer : Buffer) :
    (change buffer).status = buffer.status := by
  cases action with
  | moveRight | moveEnd =>
      cases edits
      apply edit_keeps status
      intro buffer
      split <;> simp
  | insert | deleteLeft | deleteRight | deleteWordLeft | deleteWordRight | moveLeft
  | moveWordLeft | moveWordRight | moveHome =>
      cases edits
      apply edit_keeps status
      exact fun _ => rfl
  | _ => cases edits

end Status

section Accepting

variable {suggestion : List Char}

/-- The buffer with its suggestion as part of the text. -/
theorem acceptSuggestion_of_some (suggested : buffer.suggestion = some suggestion) :
    buffer.acceptSuggestion.text = buffer.text ++ suggestion ∧
      buffer.acceptSuggestion.cursor = (buffer.text ++ suggestion).length := by
  simp [acceptSuggestion, suggested]

theorem moveRight_of_end (active : buffer.status = .active)
    (atEnd : buffer.cursor = buffer.length) : buffer.moveRight = buffer.acceptSuggestion := by
  simp [moveRight, edit, active, atEnd]

theorem moveEnd_of_end (active : buffer.status = .active)
    (atEnd : buffer.cursor = buffer.length) : buffer.moveEnd = buffer.acceptSuggestion := by
  simp [moveEnd, edit, active, atEnd]

end Accepting

section Text

theorem text_replace (active : buffer.status = .active) (text : List Char) :
    (buffer.replace text).text = text := by
  rw [replace, edit, active]

end Text

end Buffer

@[simp] theorem Editor.status_apply (editor : Editor) (action : Action) :
    (editor.apply action).buffer.status = editor.buffer.status := by
  unfold apply
  split
  · rename_i edits
    exact Buffer.status_of_editOf? edits editor.buffer
  · rfl

/-- At the end of the text, going on makes the suggestion part of the text. -/
theorem Editor.buffer_apply_of_goesOnAtEnd {editor : Editor} {action : Action}
    (active : editor.buffer.status = .active)
    (atEnd : editor.buffer.cursor = editor.buffer.length) (goesOn : action.GoesOnAtEnd) :
    (editor.apply action).buffer = editor.buffer.acceptSuggestion := by
  rcases goesOn with rfl | rfl
  · exact Buffer.moveRight_of_end active atEnd
  · exact Buffer.moveEnd_of_end active atEnd

/-- A plain motion leaves the text alone. -/
theorem Editor.text_apply_of_isPlainMotion (editor : Editor) {action : Action}
    (motion : action.IsPlainMotion) : (editor.apply action).buffer.text = editor.buffer.text := by
  rcases motion with rfl | rfl | rfl | rfl
  all_goals
    apply Buffer.edit_keeps Buffer.text
    exact fun _ => rfl

end Edit

end OperatorShell
