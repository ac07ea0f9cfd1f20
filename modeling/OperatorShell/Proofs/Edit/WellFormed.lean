import Mathlib.Data.List.Induction
import OperatorShell.Proofs.Edit.Changes

/-!
# Well-formed buffers

Whatever is done to a buffer, its cursor stays within the text, its suggestion is one line that is
there, and a completed buffer has no suggestion.  The cursor of a well-formed buffer cuts the text
in two, a motion changes the text only by accepting the suggestion, and completing it is final.
-/

namespace OperatorShell.Edit

/-- A call of an operation on a buffer. -/
inductive Call where
  | insert (character : Char)
  | insertText (text : List Char)
  | deleteLeft | deleteRight | deleteWordLeft | deleteWordRight
  | moveLeft | moveRight | moveWordLeft | moveWordRight | moveHome | moveEnd
  | replace (text : List Char)
  | splice (start stop : Nat) (inserted : List Char)
  | suggest (suggestion : Option (List Char))
  | complete
  deriving DecidableEq, Repr

namespace Call

/-- The buffer after a call. -/
def apply : Call → Buffer → Buffer
  | insert character, buffer => buffer.insert character
  | insertText text, buffer => buffer.insertText text
  | deleteLeft, buffer => buffer.deleteLeft
  | deleteRight, buffer => buffer.deleteRight
  | deleteWordLeft, buffer => buffer.deleteWordLeft
  | deleteWordRight, buffer => buffer.deleteWordRight
  | moveLeft, buffer => buffer.moveLeft
  | moveRight, buffer => buffer.moveRight
  | moveWordLeft, buffer => buffer.moveWordLeft
  | moveWordRight, buffer => buffer.moveWordRight
  | moveHome, buffer => buffer.moveHome
  | moveEnd, buffer => buffer.moveEnd
  | replace text, buffer => buffer.replace text
  | splice start stop inserted, buffer => buffer.splice start stop inserted
  | suggest suggestion, buffer => buffer.suggest suggestion
  | complete, buffer => buffer.complete

/-- The call is a motion. -/
def IsMotion (call : Call) : Prop :=
  call = moveLeft ∨ call = moveRight ∨ call = moveWordLeft ∨ call = moveWordRight ∨
    call = moveHome ∨ call = moveEnd
  deriving Decidable

end Call

theorem firstWordLength_le (text : List Char) : firstWordLength text ≤ text.length := by
  have parts := congrArg List.length (List.takeWhile_append_dropWhile (p := Text.isBlank) (l := text))
  have word := (text.dropWhile Text.isBlank).takeWhile_sublist (!Text.isBlank ·)
  rw [List.length_append] at parts
  rw [firstWordLength, ← parts]
  exact Nat.add_le_add_left word.length_le _

namespace Buffer

/-- The buffer after calls. -/
def run (buffer : Buffer) (calls : List Call) : Buffer :=
  calls.foldl (fun buffer call => call.apply buffer) buffer

theorem run_append (buffer : Buffer) (earlier later : List Call) :
    buffer.run (earlier ++ later) = (buffer.run earlier).run later :=
  List.foldl_append

/-- The cursor is within the text, a suggestion is one line that is there, and there is none when the
buffer is complete. -/
structure WellFormed (buffer : Buffer) : Prop where
  cursor_le : buffer.cursor ≤ buffer.length
  suggestible : ∀ suggestion, buffer.suggestion = some suggestion →
    suggestion ≠ [] ∧ '\n' ∉ suggestion
  final : buffer.status = .complete → buffer.suggestion = none

theorem wellFormed_ofText (text : List Char) : (ofText text).WellFormed where
  cursor_le := Nat.le_refl _
  suggestible := nofun
  final := nofun

namespace WellFormed

variable {buffer : Buffer}

/-- The cursor cuts the text in two. -/
theorem length_before (wellFormed : buffer.WellFormed) : buffer.before.length = buffer.cursor :=
  List.length_take_of_le wellFormed.cursor_le

theorem cursor_add_length_after (wellFormed : buffer.WellFormed) :
    buffer.cursor + buffer.after.length = buffer.length := by
  rw [Buffer.after, List.length_drop, ← Buffer.length, Nat.add_sub_cancel' wellFormed.cursor_le]

theorem wordStart_le (wellFormed : buffer.WellFormed) : buffer.wordStart ≤ buffer.cursor := by
  rw [← wellFormed.length_before]
  exact Nat.sub_le ..

theorem wordEnd_le (wellFormed : buffer.WellFormed) : buffer.wordEnd ≤ buffer.length := by
  rw [← wellFormed.cursor_add_length_after]
  exact Nat.add_le_add_left (firstWordLength_le buffer.after) buffer.cursor

/-- An edit leaves a buffer well formed if its change does, which is made to active buffers only. -/
theorem edit (wellFormed : buffer.WellFormed) {change : Buffer → Buffer}
    (changed : buffer.status = .active → (change buffer).WellFormed) :
    (buffer.edit change).WellFormed := by
  unfold Buffer.edit
  split
  · rename_i active
    exact changed active
  · exact wellFormed

/-- Another text may be put in place, with the cursor in it. -/
theorem rewrite (wellFormed : buffer.WellFormed) {text : List Char} {cursor : Nat}
    (inText : cursor ≤ text.length) :
    ({ buffer with text := text, cursor := cursor } : Buffer).WellFormed where
  cursor_le := inText
  suggestible := wellFormed.suggestible
  final := wellFormed.final

theorem move (wellFormed : buffer.WellFormed) {cursor : Nat} (inText : cursor ≤ buffer.length) :
    ({ buffer with cursor := cursor } : Buffer).WellFormed :=
  wellFormed.rewrite inText

theorem acceptSuggestion (wellFormed : buffer.WellFormed) :
    buffer.acceptSuggestion.WellFormed := by
  unfold Buffer.acceptSuggestion
  split
  · exact ⟨Nat.le_refl _, nofun, fun _ => rfl⟩
  · exact wellFormed

section Edits

theorem insert (wellFormed : buffer.WellFormed) (character : Char) :
    (buffer.insert character).WellFormed := by
  refine wellFormed.edit fun _ => wellFormed.rewrite ?_
  rw [List.length_append, wellFormed.length_before, List.length_cons]
  omega

theorem insertText (wellFormed : buffer.WellFormed) (text : List Char) :
    (buffer.insertText text).WellFormed := by
  induction text generalizing buffer with
  | nil => exact wellFormed
  | cons character rest ih => exact ih (wellFormed.insert character)

theorem deleteLeft (wellFormed : buffer.WellFormed) : buffer.deleteLeft.WellFormed := by
  have cursor_le := wellFormed.cursor_le
  refine wellFormed.edit fun _ => wellFormed.rewrite ?_
  rw [List.length_append, List.length_take, ← Buffer.length]
  omega

theorem deleteRight (wellFormed : buffer.WellFormed) : buffer.deleteRight.WellFormed := by
  refine wellFormed.edit fun _ => wellFormed.rewrite ?_
  rw [List.length_append, wellFormed.length_before]
  exact Nat.le_add_right ..

theorem deleteWordLeft (wellFormed : buffer.WellFormed) : buffer.deleteWordLeft.WellFormed := by
  have cursor_le := wellFormed.cursor_le
  have start_le := wellFormed.wordStart_le
  refine wellFormed.edit fun _ => wellFormed.rewrite ?_
  rw [List.length_append, List.length_take, ← Buffer.length]
  omega

theorem deleteWordRight (wellFormed : buffer.WellFormed) : buffer.deleteWordRight.WellFormed := by
  refine wellFormed.edit fun _ => wellFormed.rewrite ?_
  rw [List.length_append, wellFormed.length_before]
  exact Nat.le_add_right ..

theorem replace (wellFormed : buffer.WellFormed) (text : List Char) :
    (buffer.replace text).WellFormed :=
  wellFormed.edit fun _ => wellFormed.rewrite (Nat.le_refl _)

theorem splice (wellFormed : buffer.WellFormed) (start stop : Nat) (inserted : List Char) :
    (buffer.splice start stop inserted).WellFormed := by
  refine wellFormed.edit fun _ => wellFormed.rewrite ?_
  rw [List.length_append, List.length_append, List.length_take, ← Buffer.length]
  omega

end Edits

section Motions

theorem moveLeft (wellFormed : buffer.WellFormed) : buffer.moveLeft.WellFormed :=
  wellFormed.edit fun _ => wellFormed.move (Nat.le_trans (Nat.sub_le ..) wellFormed.cursor_le)

theorem moveRight (wellFormed : buffer.WellFormed) : buffer.moveRight.WellFormed := by
  refine wellFormed.edit fun _ => ?_
  split
  · rename_i inside
    exact wellFormed.move inside
  · exact wellFormed.acceptSuggestion

theorem moveWordLeft (wellFormed : buffer.WellFormed) : buffer.moveWordLeft.WellFormed :=
  wellFormed.edit fun _ => wellFormed.move (Nat.le_trans wellFormed.wordStart_le wellFormed.cursor_le)

theorem moveWordRight (wellFormed : buffer.WellFormed) : buffer.moveWordRight.WellFormed :=
  wellFormed.edit fun _ => wellFormed.move wellFormed.wordEnd_le

theorem moveHome (wellFormed : buffer.WellFormed) : buffer.moveHome.WellFormed :=
  wellFormed.edit fun _ => wellFormed.move (Nat.zero_le _)

theorem moveEnd (wellFormed : buffer.WellFormed) : buffer.moveEnd.WellFormed := by
  refine wellFormed.edit fun _ => ?_
  split
  · exact wellFormed.acceptSuggestion
  · exact wellFormed.move (Nat.le_refl _)

end Motions

theorem suggest (wellFormed : buffer.WellFormed) (suggestion : Option (List Char)) :
    (buffer.suggest suggestion).WellFormed := by
  refine wellFormed.edit fun active => ⟨wellFormed.cursor_le, ?_, ?_⟩
  · intro kept suggested
    have shown := (Option.filter_eq_some_iff.mp suggested).2
    simpa [isSuggestible] using shown
  · intro complete
    cases active.symm.trans complete

theorem complete (wellFormed : buffer.WellFormed) : buffer.complete.WellFormed :=
  ⟨wellFormed.cursor_le, nofun, fun _ => rfl⟩

/-- A call leaves a well-formed buffer well formed. -/
theorem apply (wellFormed : buffer.WellFormed) (call : Call) : (call.apply buffer).WellFormed := by
  cases call with
  | insert character => exact wellFormed.insert character
  | insertText text => exact wellFormed.insertText text
  | deleteLeft => exact wellFormed.deleteLeft
  | deleteRight => exact wellFormed.deleteRight
  | deleteWordLeft => exact wellFormed.deleteWordLeft
  | deleteWordRight => exact wellFormed.deleteWordRight
  | moveLeft => exact wellFormed.moveLeft
  | moveRight => exact wellFormed.moveRight
  | moveWordLeft => exact wellFormed.moveWordLeft
  | moveWordRight => exact wellFormed.moveWordRight
  | moveHome => exact wellFormed.moveHome
  | moveEnd => exact wellFormed.moveEnd
  | replace text => exact wellFormed.replace text
  | splice start stop inserted => exact wellFormed.splice start stop inserted
  | suggest suggestion => exact wellFormed.suggest suggestion
  | complete => exact wellFormed.complete

theorem run (wellFormed : buffer.WellFormed) (calls : List Call) :
    (buffer.run calls).WellFormed := by
  induction calls generalizing buffer with
  | nil => exact wellFormed
  | cons call rest ih => exact ih (wellFormed.apply call)

end WellFormed

section Final

variable {buffer : Buffer}

theorem edit_of_complete (complete : buffer.status = .complete) (change : Buffer → Buffer) :
    buffer.edit change = buffer := by
  rw [edit, complete]

theorem insertText_of_complete (complete : buffer.status = .complete) (text : List Char) :
    buffer.insertText text = buffer := by
  induction text with
  | nil => rfl
  | cons character rest ih =>
      rw [insertText, List.foldl_cons, insert, edit_of_complete complete]
      exact ih

/-- No call changes a complete buffer. -/
theorem WellFormed.apply_of_complete (wellFormed : buffer.WellFormed)
    (complete : buffer.status = .complete) (call : Call) : call.apply buffer = buffer := by
  cases call with
  | insertText text => exact insertText_of_complete complete text
  | complete =>
      rw [Call.apply, Buffer.complete, ← wellFormed.final complete, ← complete]
  | _ =>
      rw [Call.apply]
      exact edit_of_complete complete _

theorem WellFormed.run_of_complete (wellFormed : buffer.WellFormed)
    (complete : buffer.status = .complete) (calls : List Call) : buffer.run calls = buffer := by
  induction calls with
  | nil => rfl
  | cons call rest ih =>
      rw [Buffer.run, List.foldl_cons, wellFormed.apply_of_complete complete]
      exact ih

/-- Once it has been completed, a buffer stays complete. -/
theorem status_run_of_mem {calls : List Call} (completed : Call.complete ∈ calls) {start : Buffer}
    (wellFormed : start.WellFormed) : (start.run calls).status = .complete := by
  obtain ⟨earlier, later, rfl⟩ := List.append_of_mem completed
  have complete : ((start.run earlier).complete).status = .complete := rfl
  have kept := (wellFormed.run earlier).apply .complete
  rw [run_append]
  exact (congrArg status (kept.run_of_complete complete later)).trans complete

end Final

section Accepting

variable {buffer : Buffer} {call : Call}

/-- The cursor was at the end of the text, and the suggestion has become part of it. -/
def Accepts (buffer later : Buffer) : Prop :=
  ∃ suggestion, buffer.suggestion = some suggestion ∧ buffer.cursor = buffer.length ∧
    later.text = buffer.text ++ suggestion ∧ later.suggestion = none

theorem text_acceptSuggestion_or (atEnd : buffer.cursor = buffer.length) :
    buffer.acceptSuggestion.text = buffer.text ∨ buffer.Accepts buffer.acceptSuggestion := by
  unfold acceptSuggestion
  split
  · rename_i suggestion suggested
    exact .inr ⟨suggestion, suggested, atEnd, rfl, rfl⟩
  · exact .inl rfl

theorem WellFormed.text_moveRight_or (wellFormed : buffer.WellFormed) :
    buffer.moveRight.text = buffer.text ∨ buffer.Accepts buffer.moveRight := by
  rw [Buffer.moveRight, Buffer.edit]
  split
  · split
    · exact .inl rfl
    · rename_i outside
      have atEnd := Nat.le_antisymm wellFormed.cursor_le (Nat.le_of_not_lt outside)
      exact text_acceptSuggestion_or atEnd
  · exact .inl rfl

theorem text_moveEnd_or (buffer : Buffer) :
    buffer.moveEnd.text = buffer.text ∨ buffer.Accepts buffer.moveEnd := by
  rw [Buffer.moveEnd, Buffer.edit]
  split
  · split
    · rename_i atEnd
      exact text_acceptSuggestion_or atEnd
    · exact .inl rfl
  · exact .inl rfl

/-- A motion leaves the text alone, or it goes on at the end of the text and accepts the
suggestion. -/
theorem WellFormed.text_apply_of_isMotion (wellFormed : buffer.WellFormed)
    (motion : call.IsMotion) :
    (call.apply buffer).text = buffer.text ∨ buffer.Accepts (call.apply buffer) := by
  have moved (place : Buffer → Nat) :
      (buffer.edit fun buffer => { buffer with cursor := place buffer }).text = buffer.text := by
    apply edit_keeps text
    exact fun _ => rfl
  rcases motion with rfl | rfl | rfl | rfl | rfl | rfl
  · exact .inl (moved _)
  · exact wellFormed.text_moveRight_or
  · exact .inl (moved _)
  · exact .inl (moved _)
  · exact .inl (moved _)
  · exact buffer.text_moveEnd_or

end Accepting

end Buffer

end OperatorShell.Edit
