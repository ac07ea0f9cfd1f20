import Mathlib.Data.List.Basic
import Mathlib.Data.List.TakeWhile
import OperatorShell.Edit.Editor

/-!
# What a mask shows of a line

Editing looks at the characters of a line only to tell white space from the rest, and a masked
editor draws the same glyph for every character.  So a line can be veiled, every character
replaced by one of two that stand for blank and not blank: all edits go on as before, and
what a masked editor draws does not change.
-/

namespace OperatorShell

namespace Text

/-- The character that stands for all that are blank, or for all that are not. -/
def veil (character : Char) : Char := if isBlank character then ' ' else '•'

@[simp] theorem isBlank_veil (character : Char) : isBlank (veil character) = isBlank character := by
  unfold veil
  split
  · rename_i blank
    rw [blank, isBlank_space]
  · rename_i visible
    rw [Bool.not_eq_true] at visible
    rw [visible]
    rfl

/-- The veil tells blank characters from others, and nothing else. -/
theorem veil_eq_veil_iff (left right : Char) :
    veil left = veil right ↔ isBlank left = isBlank right := by
  constructor
  · intro same
    rw [← isBlank_veil left, same, isBlank_veil]
  · intro same
    rw [veil, same]
    rfl

@[simp] theorem isBlank_comp_veil : isBlank ∘ veil = isBlank := funext isBlank_veil

@[simp] theorem notBlank_comp_veil : (!isBlank ·) ∘ veil = (!isBlank ·) := by
  funext character
  simp

end Text

namespace Keys.Action

/-- The action with its character veiled, if it types one. -/
def veil : Action → Action
  | .insert character => .insert (Text.veil character)
  | action => action

end Keys.Action

namespace Edit

open Text Keys

theorem lastWordLength_map_veil (text : List Char) :
    lastWordLength (text.map veil) = lastWordLength text := by
  simp [lastWordLength, ← List.map_reverse, List.takeWhile_map, List.dropWhile_map]

theorem firstWordLength_map_veil (text : List Char) :
    firstWordLength (text.map veil) = firstWordLength text := by
  simp [firstWordLength, List.takeWhile_map, List.dropWhile_map]

namespace Buffer

/-- The buffer with every character veiled. -/
def veil (buffer : Buffer) : Buffer :=
  { buffer with
    text := buffer.text.map Text.veil
    suggestion := buffer.suggestion.map (List.map Text.veil) }

section Veil

variable (buffer : Buffer)

@[simp] theorem cursor_veil : buffer.veil.cursor = buffer.cursor := rfl

@[simp] theorem status_veil : buffer.veil.status = buffer.status := rfl

@[simp] theorem text_veil : buffer.veil.text = buffer.text.map Text.veil := rfl

@[simp] theorem length_veil : buffer.veil.length = buffer.length := List.length_map _

@[simp] theorem before_veil : buffer.veil.before = buffer.before.map Text.veil :=
  List.map_take.symm

@[simp] theorem after_veil : buffer.veil.after = buffer.after.map Text.veil :=
  List.map_drop.symm

@[simp] theorem wordStart_veil : buffer.veil.wordStart = buffer.wordStart := by
  simp [wordStart, lastWordLength_map_veil]

@[simp] theorem wordEnd_veil : buffer.veil.wordEnd = buffer.wordEnd := by
  simp [wordEnd, firstWordLength_map_veil]

theorem veil_rewrite (text : List Char) (cursor : Nat) :
    ({ buffer with text := text, cursor := cursor } : Buffer).veil =
      { buffer.veil with text := text.map Text.veil, cursor := cursor } := rfl

/-- A change that can be made under the veil can be made to a buffer under the veil. -/
theorem veil_edit {change veiled : Buffer → Buffer}
    (same : ∀ buffer, (change buffer).veil = veiled buffer.veil) :
    (buffer.edit change).veil = buffer.veil.edit veiled := by
  unfold edit
  rw [status_veil]
  split
  · exact same buffer
  · rfl

theorem veil_acceptSuggestion :
    buffer.acceptSuggestion.veil = buffer.veil.acceptSuggestion := by
  obtain ⟨text, cursor, status, suggestion⟩ := buffer
  cases suggestion <;> simp [acceptSuggestion, veil]

end Veil

end Buffer

namespace Editor

/-- The editor with every character of its buffer veiled. -/
def veil (editor : Editor) : Editor := editor.edit Buffer.veil

/-- Under the veil every edit goes on as before. -/
theorem veil_apply (editor : Editor) (action : Action) :
    (editor.apply action).veil = editor.veil.apply action.veil := by
  have changed {change veiled : Buffer → Buffer}
      (same : ∀ buffer, (change buffer).veil = veiled buffer.veil) :
      (editor.edit fun buffer => buffer.edit change).veil =
        editor.veil.edit fun buffer => buffer.edit veiled :=
    congrArg (Editor.mk editor.header · editor.mask) (editor.buffer.veil_edit same)
  cases action with
  | insert | deleteLeft | deleteRight | deleteWordLeft | deleteWordRight | moveLeft
  | moveWordLeft | moveWordRight | moveHome =>
      apply changed
      intro buffer
      rw [Buffer.veil_rewrite]
      simp
  | moveRight | moveEnd =>
      -- Past the end of the text a suggestion is accepted.
      apply changed
      intro buffer
      simp only [apply_ite Buffer.veil, Buffer.veil_acceptSuggestion, Buffer.veil_rewrite,
        Buffer.text_veil, Buffer.cursor_veil, Buffer.length_veil]
  | _ => rfl

end Editor

end Edit

end OperatorShell
