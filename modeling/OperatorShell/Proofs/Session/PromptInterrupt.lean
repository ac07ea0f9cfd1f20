import OperatorShell.Proofs.Keys.Bindings
import OperatorShell.Proofs.Session.Mode
import OperatorShell.Proofs.Session.PickerClosing

/-!
# Interrupting the command prompt

Ctrl+C is the one chord that the maps of the command prompt and of its picker give the meaning of
an interrupt, and one of the two maps is on top whenever a key arrives.  So the prompt is
interrupted by the first Ctrl+C it takes, with and without a picker, and by nothing else.
-/

namespace OperatorShell

open Command Session Keys

variable {σ ω α : Type}

/-- The key press is Ctrl+C. -/
def Keys.KeyEvent.IsControlC (event : KeyEvent) : Prop := chord event = "ctrl+c".toList

section Conversation

variable {widget : Widget ω α} {during : ω → Prop} {after : Except ReadError α → ω → Prop}
  {breaks : KeyEvent → Prop}

/-- What a reaction says about the key that caused it: the widget is interrupted by a key that
breaks and by no other one. -/
abbrev Reaction.Heeds (breaks : Prop) (reaction : Reaction ω α) : Prop :=
  reaction.Meets (fun _ => ¬breaks) (fun result _ => result = .error .interrupted ↔ breaks)

/-- A widget that is given up for another reason is not interrupted. -/
theorem Widget.leave_ne_interrupted (widget : Widget ω α) (state : ω) {error : ReadError}
    (other : error ≠ .interrupted) (rest : List Signal) :
    (widget.leave state error rest).1 ≠ .error .interrupted := by
  unfold leave Attempt.into
  split
  · exact mt Except.error.inj other
  · exact nofun

/-- What is left of the signals behind the first one has been split off behind it. -/
theorem exists_earlier {signal : Signal} {rest taken left : List Signal}
    (split : signal :: rest = taken ++ left) (suffix : left <:+ rest) :
    ∃ earlier, taken = signal :: earlier ∧ rest = earlier ++ left := by
  rcases List.cons_eq_append_iff.mp split with ⟨rfl, rfl⟩ | found
  · exact absurd suffix.length_le (by simp)
  · exact found

/-- A conversation is interrupted when a key that breaks is among those it has taken, and only
then. -/
theorem Widget.interrupted_iff (contract : widget.Contract during after)
    (heeds : ∀ state event, during state → (widget.react state event).Heeds (breaks event))
    {state : ω} (start : during state) {signals taken : List Signal}
    (split : signals = taken ++ (converse widget state signals).2.2) :
    (converse widget state signals).1 = .error .interrupted ↔
      ∃ event, Signal.key event ∈ taken ∧ breaks event := by
  induction signals generalizing state taken with
  | nil =>
      obtain rfl : taken = [] := by simp_all
      simp [converse, leave_ne_interrupted]
  | cons signal rest ih =>
      cases signal with
      | pending =>
          obtain ⟨earlier, rfl, splitRest⟩ :=
            exists_earlier split (converse_signals_suffix widget state rest)
          simpa [converse] using ih start splitRest
      | closed | failed message =>
          rw [converse, Widget.signals_leave] at split
          obtain ⟨earlier, rfl, splitRest⟩ := exists_earlier split List.suffix_rfl
          obtain rfl : earlier = [] := List.self_eq_append_left.mp splitRest
          simp [converse, leave_ne_interrupted]
      | key event =>
          have kept := contract.react state event start
          have heeded := heeds state event start
          cases reaction : widget.react state event with
          | wait next =>
              rw [reaction] at kept heeded
              simp only [converse, reaction] at split ⊢
              obtain ⟨earlier, rfl, splitRest⟩ :=
                exists_earlier split (converse_signals_suffix widget next rest)
              have unbroken : ¬breaks event := heeded
              simpa [unbroken] using ih kept splitRest
          | finish result last =>
              rw [reaction] at heeded
              simp only [converse, reaction] at split ⊢
              obtain ⟨earlier, rfl, splitRest⟩ := exists_earlier split List.suffix_rfl
              obtain rfl : earlier = [] := List.self_eq_append_left.mp splitRest
              simpa [Reaction.Meets] using heeded

end Conversation

namespace Picking

variable {picking : Picking} {event : KeyEvent}

theorem react_of_interrupt (meant : picking.display.dispatch event = some .interrupt) :
    react picking event = .finish (.error .interrupted) picking.clear.state := by
  rw [react, meant]
  rfl

/-- Without an interrupt a picker goes on or comes to an outcome, and a key that escapes is the one
that was pressed. -/
theorem choose_of_ne_interrupt (picker : Picker) {action : Option Action}
    (other : action ≠ some .interrupt) :
    (∃ later, choose picker event action = .stay later) ∨
      ∃ outcome, choose picker event action = .leave (.ok outcome) ∧
        ∀ escaped, outcome = .escaped escaped → escaped = event := by
  unfold choose
  split
  · exact absurd rfl other
  · split <;> exact .inr ⟨_, rfl, by simp⟩
  · split
    · exact .inr ⟨_, rfl, by simp⟩
    · split
      · exact .inl ⟨_, rfl⟩
      · split
        · exact .inr ⟨_, rfl, by simp⟩
        · exact .inl ⟨_, rfl⟩

theorem react_of_ne_interrupt (other : picking.display.dispatch event ≠ some .interrupt) :
    (∃ later, react picking event = .wait later) ∨
      ∃ outcome, react picking event = .finish (.ok outcome) picking.clear.state ∧
        ∀ escaped, outcome = .escaped escaped → escaped = event := by
  unfold react
  rcases choose_of_ne_interrupt picking.picker other with
    ⟨later, chosen⟩ | ⟨outcome, chosen, escapes⟩
  · rw [chosen]
    exact .inl ⟨_, rfl⟩
  · rw [chosen]
    exact .inr ⟨outcome, rfl, escapes⟩

end Picking

namespace Session.PromptState

section Reacting

variable {state : PromptState σ} (registry : Registry σ) (settings : Settings)

/-- An interrupt ends the line with an interrupt, and no other action does. -/
theorem heeds_act (action : Action) :
    (state.act registry settings action).Heeds (action = .interrupt) := by
  cases action with
  | interrupt => exact ⟨fun _ => rfl, fun _ => rfl⟩
  | submit =>
      dsimp only [act]
      split
      · exact nofun
      · exact ⟨nofun, nofun⟩
  | endOfInput =>
      dsimp only [act]
      split
      · exact ⟨nofun, nofun⟩
      · exact nofun
  | complete =>
      rw [act, wait_complete]
      exact nofun
  | _ => exact nofun

variable {mode : KeyMapStack × Nat}

theorem AtLine.heeds_reactLine (line : state.AtLine mode)
    (top : mode.1.frames.head? = some .commandPrompt) (event : KeyEvent) :
    (state.reactLine registry settings event).Heeds event.IsControlC := by
  have dispatched : state.display.dispatch event = KeyMap.commandPrompt.lookup event := by
    rw [← line.mode_eq] at top
    exact KeyMapStack.dispatch_of_head? top event
  have meaning := KeyMap.bindsOnly_controlC_commandPrompt.lookup_eq_iff event
  rw [← dispatched] at meaning
  change _ ↔ event.IsControlC at meaning
  unfold reactLine
  cases meant : state.display.dispatch event with
  | some action =>
      rw [meant, Option.some.injEq] at meaning
      simpa only [meaning] using heeds_act registry settings action
  | none =>
      rw [meant] at meaning
      exact meaning.not.mp nofun

/-- Whether a picker is open or not, Ctrl+C interrupts the prompt and no other key does. -/
theorem heeds_react (same : state.lineMode = mode)
    (top : mode.1.frames.head? = some .commandPrompt) (escapes : state.PickerEscapes)
    (event : KeyEvent) :
    (state.react registry settings event).Heeds event.IsControlC := by
  unfold react
  cases opened : state.completion with
  | none =>
      rw [lineMode, opened] at same
      exact AtLine.heeds_reactLine registry settings ⟨opened, same⟩ top event
  | some completion =>
      have meaning := KeyMap.bindsOnly_controlC_picker.lookup_eq_iff event
      rw [← KeyMapStack.dispatch_of_head? (escapes completion opened).2] at meaning
      change (state.picking completion).display.dispatch event = _ ↔ event.IsControlC at meaning
      dsimp only
      by_cases pressed : event.IsControlC
      · rw [Picking.react_of_interrupt (meaning.mpr pressed)]
        exact ⟨fun _ => pressed, fun _ => rfl⟩
      · rcases Picking.react_of_ne_interrupt (meaning.not.mpr pressed) with
          ⟨later, reacted⟩ | ⟨outcome, reacted, escapes⟩
        · rw [reacted]
          exact pressed
        · rw [reacted]
          cases outcome with
          | selected candidate => exact pressed
          | cancelled => exact pressed
          | escaped escaped =>
              -- The key acts on the line below the picker, which is back by then.
              obtain rfl := escapes escaped rfl
              have line : (state.closePicker completion
                  (state.picking completion).clear.state).AtLine mode :=
                atLine_closePicker opened same rfl
              exact line.refresh.heeds_reactLine registry settings top escaped

end Reacting

end Session.PromptState

/-- The command prompt is interrupted when Ctrl+C is among the keys it has taken, and only then. -/
theorem Shell.readLine_interrupted_iff (shell : Shell σ) {session : Session σ}
    {taken : List Signal}
    (split : session.console.signals = taken ++ (shell.readLine session).2.console.signals) :
    (shell.readLine session).1 = .error .interrupted ↔
      ∃ event, Signal.key event ∈ taken ∧ event.IsControlC := by
  let mode := (session.console.enterRaw.state.display.enter KeyMap.commandPrompt).2.mode
  have contract := (PromptState.contract_widget shell.registry shell.settings mode).and
    (PromptState.contract_pickerEscapes shell.registry shell.settings)
  have heeds (state : PromptState σ) (event : KeyEvent)
      (holds : state.lineMode = mode ∧ state.PickerEscapes) :
      (state.react shell.registry shell.settings event).Heeds event.IsControlC :=
    state.heeds_react shell.registry shell.settings holds.1 rfl holds.2 event
  exact Widget.interrupted_iff contract heeds ⟨rfl, PromptState.pickerEscapes_of_closed rfl⟩ split

end OperatorShell
