import OperatorShell.Proofs.Console.InStep
import OperatorShell.Proofs.Keys.Typing
import OperatorShell.Question.Widgets

/-!
# Masked answers

A masked prompt behaves the same for every text that is blank in the same places: it draws the
same, it stops at the same key, and its answer is as long.  This is shown by running it a second
time with every typed character veiled, key by key in step with the first run.
-/

namespace OperatorShell

open Edit Keys Text

namespace Edit.Editor

section Masked

variable {left right : Editor} {glyph : Char}

/-- Under a mask the drawing depends on the lengths only. -/
theorem render_eq_of_masked (leftMasked : left.mask = some glyph)
    (rightMasked : right.mask = some glyph) (header_eq : left.header = right.header)
    (status_eq : left.buffer.status = right.buffer.status)
    (length_eq : left.buffer.length = right.buffer.length)
    (cursor_eq : left.buffer.cursor = right.buffer.cursor) : left.render = right.render := by
  have text_eq : left.buffer.text.length = right.buffer.text.length := length_eq
  have before_eq : left.buffer.before.length = right.buffer.before.length := by
    simp only [Buffer.before, List.length_take, text_eq, cursor_eq]
  have content_eq : left.drawContent = right.drawContent := by
    simp only [drawContent, visible, leftMasked, rightMasked, header_eq, text_eq]
  have column_eq : left.column = right.column := by
    simp only [column, visible, leftMasked, rightMasked, header_eq, before_eq]
  have hidden {editor : Editor} (masked : editor.mask = some glyph) :
      editor.drawSuggestion = [] := by
    rw [drawSuggestion, masked]
    cases editor.buffer.suggestion <;> rfl
  rw [render, render, status_eq, content_eq, column_eq, hidden leftMasked, hidden rightMasked]

theorem render_veil {editor : Editor} (masked : editor.mask = some glyph) :
    editor.veil.render = editor.render :=
  render_eq_of_masked masked masked rfl rfl editor.buffer.length_veil rfl

/-- The completed line shows no more of an answer than its length. -/
theorem render_finishWith_veil {editor : Editor} (masked : editor.mask = some glyph)
    {answer other : List Char} (length_eq : other.length = answer.length) :
    (editor.veil.finishWith other).render = (editor.finishWith answer).render := by
  obtain ⟨header, ⟨text, cursor, status, suggestion⟩, mask⟩ := editor
  cases status with
  | active => exact render_eq_of_masked masked masked rfl rfl length_eq length_eq
  | complete => exact render_eq_of_masked masked masked rfl rfl (List.length_map _) rfl

end Masked

end Edit.Editor

namespace Editing

/-- The editing with every character of the line veiled. -/
def veil (editing : Editing) : Editing := { editing with editor := editing.editor.veil }

/-- The line is masked, and keys have the meaning that they have while a line is edited. -/
structure Covered (glyph : Char) (editing : Editing) : Prop where
  masked : editing.editor.mask = some glyph
  keymap_eq : editing.display.keymaps.frames.head? = some .editing

section Covered

variable {glyph : Char} {editing : Editing}

theorem Covered.dispatch_veil (covered : editing.Covered glyph) (event : KeyEvent) :
    editing.display.dispatch event.veil = (editing.display.dispatch event).map Action.veil := by
  simp only [Display.dispatch, KeyMapStack.dispatch_of_head? covered.keymap_eq]
  exact KeyMap.lookup_editing_veil event

theorem Covered.update (covered : editing.Covered glyph) {change : Editor → Editor}
    (masked : (change editing.editor).mask = editing.editor.mask) :
    (editing.update change).state.Covered glyph :=
  ⟨masked.trans covered.masked, covered.keymap_eq⟩

/-- A change that can be made under the veil is drawn as it is without. -/
theorem Covered.veil_update (covered : editing.Covered glyph) {change veiled : Editor → Editor}
    (masked : (change editing.editor).mask = editing.editor.mask)
    (same : (change editing.editor).veil = veiled editing.editor.veil) :
    (editing.update change).state.veil = (editing.veil.update veiled).state := by
  have drawn := Editor.render_veil (masked.trans covered.masked)
  rw [same] at drawn
  simp only [Editing.update, Editing.draw, Editing.veil, Attempt.map, same, drawn]

end Covered

end Editing

namespace Prompt

/-- The prompt shows glyphs only, and nothing but the operator decides on the answer. -/
structure Hides (prompt : Prompt) (glyph : Char) : Prop where
  masked : prompt.mask = some glyph
  unsuggested : prompt.suggest = none
  unchecked : prompt.validator = none

section Hides

variable {prompt : Prompt} {glyph : Char}

theorem Hides.refresh_eq (hides : prompt.Hides glyph) (editor : Editor) :
    prompt.refresh editor = editor.edit (·.suggest none) := by
  simp [refresh, suggestionFor, hides.masked, hides.unsuggested]

theorem Hides.veil_refresh (hides : prompt.Hides glyph) (editor : Editor) :
    (prompt.refresh editor).veil = prompt.refresh editor.veil := by
  rw [hides.refresh_eq, hides.refresh_eq]
  exact congrArg (Editor.mk editor.header · editor.mask)
    (editor.buffer.veil_edit fun _ => rfl)

/-- The veil keeps the length of the answer, also where it is the default. -/
theorem length_answer_veil (prompt : Prompt) (editor : Editor) :
    (prompt.answer editor.veil).length = (prompt.answer editor).length := by
  unfold answer
  cases text : editor.buffer.text with
  | nil => simp [Editor.veil, Editor.edit, text]
  | cons character rest => simp [Editor.veil, Editor.edit, text]

theorem mask_apply (editor : Editor) (action : Action) :
    (editor.apply action).mask = editor.mask := by
  unfold Editor.apply
  split <;> rfl

/-- An action that neither submits nor interrupts goes on under the veil. -/
theorem Hides.edit_matches (hides : prompt.Hides glyph) {editing : Editing}
    (covered : editing.Covered glyph) (action : Action) :
    let edited := editing.update fun editor => prompt.refresh (editor.apply action)
    let veiled := editing.veil.update fun editor => prompt.refresh (editor.apply action.veil)
    veiled.state = edited.state.veil ∧ edited.state.Covered glyph := by
  have masked : (prompt.refresh (editing.editor.apply action)).mask = editing.editor.mask :=
    mask_apply editing.editor action
  constructor
  · apply Eq.symm
    apply covered.veil_update masked
    rw [hides.veil_refresh, Editor.veil_apply]
  · exact covered.update masked

/-- Key by key a masked prompt draws the same for a veiled key. -/
theorem Hides.react_matches (hides : prompt.Hides glyph) {editing : Editing}
    (covered : editing.Covered glyph) (event : KeyEvent) :
    (prompt.react editing event).Matches
      (fun left right => right = left.veil ∧ left.Covered glyph)
      (fun answer left other right =>
        other.map String.length = answer.map String.length ∧ right.display = left.display)
      (prompt.react editing.veil event.veil) := by
  have dispatched := covered.dispatch_veil event
  change editing.veil.display.dispatch _ = _ at dispatched
  unfold react
  rw [dispatched]
  cases editing.display.dispatch event with
  | none => exact ⟨rfl, covered⟩
  | some action =>
      cases action with
      | interrupt =>
          have drawn : editing.editor.finish.veil.render = editing.editor.finish.render :=
            Editor.render_veil covered.masked
          exact ⟨rfl, congrArg (fun line => (editing.display.draw line).state) drawn⟩
      | submit =>
          have accepted (answer : String) : prompt.check answer = .ok () := by
            rw [check, hides.unchecked]
          have length_eq := prompt.length_answer_veil editing.editor
          rw [← String.length_toList, ← String.length_toList] at length_eq
          have drawn := Editor.render_finishWith_veil covered.masked length_eq
          simp only [Option.map_some, Action.veil, accepted]
          rw [String.length_toList, String.length_toList] at length_eq
          exact ⟨congrArg Except.ok length_eq,
            congrArg (fun line => (editing.display.draw line).state) drawn⟩
      | _ => exact hides.edit_matches covered _

/-- A masked prompt stays in step with itself when the keys are veiled. -/
theorem Hides.inStep (hides : prompt.Hides glyph) :
    Widget.InStep ⟨prompt.react, .done⟩ ⟨prompt.react, .done⟩ KeyEvent.veil
      (fun _ _ => ([] : List Unit)) (fun _ _ => [])
      (fun left right => right = left.veil ∧ left.Covered glyph)
      (fun answer left other right =>
        other.map String.length = answer.map String.length ∧ right.display = left.display) where
  react := by
    rintro left right event ⟨rfl, covered⟩
    exact hides.react_matches covered event
  note _ _ _ _ := rfl
  fault _ _ _ := rfl
  abandon := by
    rintro left right error ⟨rfl, -⟩
    exact ⟨rfl, rfl⟩

/-- The prompt before the first key. -/
def opened (prompt : Prompt) (display : Display) : Editing :=
  (Editing.start (prompt.refresh (.ofHeader prompt.header prompt.mask))
    (display.enterRaw.state.enter .editing).2).state

/-- Reading with veiled keys shows the same and gives an answer of the same length. -/
theorem Hides.read_veil (hides : prompt.Hides glyph) (display : Display)
    (signals : List Signal) :
    let shown := prompt.read ⟨display, signals⟩
    let veiled := prompt.read ⟨display, signals.map (Signal.map KeyEvent.veil)⟩
    veiled.1.map String.length = shown.1.map String.length ∧
      veiled.2.display = shown.2.display ∧
        veiled.2.signals = shown.2.signals.map (Signal.map KeyEvent.veil) := by
  have start : prompt.opened display = (prompt.opened display).veil ∧
      (prompt.opened display).Covered glyph := by
    have same : (prompt.opened display).editor.veil = (prompt.opened display).editor :=
      hides.veil_refresh _
    exact ⟨by rw [Editing.veil, same], hides.masked, rfl⟩
  obtain ⟨⟨answer_eq, display_eq⟩, rest_eq, -⟩ := hides.inStep.converse start signals
  refine ⟨answer_eq, ?_, rest_eq⟩
  exact congrArg (fun inner : Display =>
    (inner.release (display.enterRaw.state.enter .editing).1).leaveRaw) display_eq

end Hides

end Prompt

/-- The signals are the same, or both are unmodified keys for characters of which both are blank or
neither is. -/
inductive Signal.Alike : Signal → Signal → Prop where
  | same (signal : Signal) : Alike signal signal
  | typed {left right : Char} : isBlank left = isBlank right →
      Alike (.key (.plain (.char left))) (.key (.plain (.char right)))

theorem Signal.Alike.map_veil_eq {left right : Signal} (alike : left.Alike right) :
    left.map KeyEvent.veil = right.map KeyEvent.veil := by
  cases alike with
  | same => rfl
  | typed blank =>
      have veiled := (veil_eq_veil_iff _ _).mpr blank
      exact congrArg (fun character => Signal.key (.plain (.char character))) veiled

theorem map_veil_eq_of_alike {left right : List Signal}
    (alike : List.Forall₂ Signal.Alike left right) :
    left.map (Signal.map KeyEvent.veil) = right.map (Signal.map KeyEvent.veil) := by
  induction alike with
  | nil => rfl
  | cons first _ ih => rw [List.map_cons, List.map_cons, first.map_veil_eq, ih]

/-- What is typed into a masked prompt does not show: keys that differ only in what they type,
blank for blank, give the same output, the same error or answers of the same length, and as many
keys are left. -/
theorem Prompt.read_alike {prompt : Prompt} {glyph : Char} (hides : prompt.Hides glyph)
    (display : Display) {left right : List Signal}
    (alike : List.Forall₂ Signal.Alike left right) :
    let first := prompt.read ⟨display, left⟩
    let second := prompt.read ⟨display, right⟩
    first.2.display = second.2.display ∧
      first.2.signals.length = second.2.signals.length ∧
        first.1.map String.length = second.1.map String.length := by
  obtain ⟨leftAnswer, leftDisplay, leftRest⟩ := hides.read_veil display left
  obtain ⟨rightAnswer, rightDisplay, rightRest⟩ := hides.read_veil display right
  rw [map_veil_eq_of_alike alike] at leftAnswer leftDisplay leftRest
  refine ⟨leftDisplay.symm.trans rightDisplay, ?_, leftAnswer.symm.trans rightAnswer⟩
  have rest_eq := congrArg List.length (leftRest.symm.trans rightRest)
  simpa using rest_eq

/-- The prompt that asks for a secret hides it. -/
theorem Prompt.hides_secret (header : String) (glyph : Char) :
    { Prompt.ofHeader header with mask := some glyph }.Hides glyph := ⟨rfl, rfl, rfl⟩

/-- The keys for a text of which the last word is taken back before it is submitted. -/
def retractedKeys (text : String) : List Signal :=
  text.toList.map (fun character => .key (.plain (.char character))) ++
    [.key ⟨.char 'w', { Modifiers.none with ctrl := true }⟩, .key (.plain .enter)]

/-- Two passwords look the same while they are typed and corrected. -/
theorem password_alike :
    { Prompt.ofHeader "Password: " with mask := some '*' }.Hides '*' ∧
      List.Forall₂ Signal.Alike (retractedKeys "hi 5") (retractedKeys "ok\té") ∧
      ((Question.secret "Password: ").put ⟨10, '*'⟩
          (⟨.blank, retractedKeys "hi 5"⟩ : Console)).2.display.screen =
        ((Question.secret "Password: ").put ⟨10, '*'⟩
          (⟨.blank, retractedKeys "ok\té"⟩ : Console)).2.display.screen := by
  have alike : List.Forall₂ Signal.Alike (retractedKeys "hi 5") (retractedKeys "ok\té") :=
    .cons (.typed rfl) (.cons (.typed rfl) (.cons (.typed rfl) (.cons (.typed rfl)
      (.cons (.same _) (.cons (.same _) .nil)))))
  have hides := Prompt.hides_secret "Password: " '*'
  have shown := (Prompt.read_alike hides .blank alike).1
  exact ⟨hides, alike, congrArg Display.screen shown⟩

end OperatorShell
