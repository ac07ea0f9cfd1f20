import OperatorShell.Proofs.Command.Registration
import OperatorShell.Proofs.Question.Choosing
import OperatorShell.Proofs.Session.Completing
import OperatorShell.Session.Basic

/-!
# Closing the picker of the command prompt

A picker that the command prompt has opened closes on Escape and on every key that its map does
not bind, and such a key is then handled by the line.  Both ways the line is drawn first, so
closing by a key is the same as Escape and the key after it: for the answer, for all that the
session keeps, and for the keys that are left.
-/

namespace OperatorShell

open Command Session Keys

variable {σ ω α : Type}

section Conversation

/-- The state in which a widget wants another key after it has taken these signals, unless it is
done before. -/
def Widget.after (widget : Widget ω α) : ω → List Signal → Option ω
  | state, [] => some state
  | state, .pending :: rest => widget.after state rest
  | state, .key event :: rest =>
      match widget.react state event with
      | .wait next => widget.after next rest
      | .finish _ _ => none
  | _, .closed :: _ | _, .failed _ :: _ => none

variable {widget : Widget ω α} {state later : ω} {taken : List Signal}

/-- A conversation goes on from the state that it has reached. -/
theorem converse_append (reached : widget.after state taken = some later) (rest : List Signal) :
    converse widget state (taken ++ rest) = converse widget later rest := by
  induction taken generalizing state with
  | nil =>
      cases reached
      rfl
  | cons signal taken ih =>
      cases signal with
      | pending => exact ih reached
      | closed | failed message => cases reached
      | key event =>
          rw [Widget.after] at reached
          rw [List.cons_append, converse]
          cases reaction : widget.react state event with
          | wait next =>
              rw [reaction] at reached
              exact ih reached
          | finish result last =>
              rw [reaction] at reached
              cases reached

/-- Signals are taken one part after the other. -/
theorem Widget.after_append (widget : Widget ω α) (state : ω) (first second : List Signal) :
    widget.after state (first ++ second) =
      (widget.after state first).bind (widget.after · second) := by
  induction first generalizing state with
  | nil => rfl
  | cons signal first ih =>
      cases signal with
      | pending => exact ih state
      | closed | failed message => rfl
      | key event =>
          rw [List.cons_append, Widget.after, Widget.after]
          cases widget.react state event with
          | wait next => exact ih next
          | finish result last => rfl

/-- What a contract promises between two keys holds of the state that is reached. -/
theorem Widget.Contract.after {during : ω → Prop} {done : Except ReadError α → ω → Prop}
    (contract : widget.Contract during done) (holds : during state)
    (reached : widget.after state taken = some later) : during later := by
  induction taken generalizing state with
  | nil =>
      cases reached
      exact holds
  | cons signal taken ih =>
      cases signal with
      | pending => exact ih holds reached
      | closed | failed message => cases reached
      | key event =>
          have reacted := contract.react state event holds
          rw [Widget.after] at reached
          cases reaction : widget.react state event with
          | wait next =>
              rw [reaction] at reached reacted
              exact ih reacted reached
          | finish result last =>
              rw [reaction] at reached
              cases reached

/-- What every reaction leaves as it is is the same in the state that is reached. -/
theorem Widget.after_keeps {β : Type} (measure : ω → β)
    (react : ∀ state event, (widget.react state event).Keeps (measure · = measure state))
    (reached : widget.after state taken = some later) : measure later = measure state := by
  have contract : widget.Contract (measure · = measure state) fun _ _ => True := by
    constructor
    · intro current event same
      rw [← same]
      exact (react current event).mono (fun _ kept => kept) fun _ _ _ => trivial
    · exact fun _ _ _ => trivial
  exact contract.after rfl reached

end Conversation

namespace Picking

variable (picking : Picking) (event : KeyEvent)

/-- A key without a meaning closes a picker that lets it escape. -/
theorem react_of_unbound (escaping : picking.picker.escaping = true)
    (unbound : picking.display.dispatch event = none) :
    react picking event = .finish (.ok (.escaped event)) picking.clear.state := by
  rw [react, unbound]
  simp only [choose, escaping]
  rfl

/-- Cancelling closes a picker that lets keys escape. -/
theorem react_of_cancel (escaping : picking.picker.escaping = true)
    (meant : picking.display.dispatch event = some .cancel) :
    react picking event = .finish (.ok .cancelled) picking.clear.state := by
  rw [react, meant]
  simp only [choose, escaping]
  rfl

end Picking

namespace Session.PromptState

/-- An open picker lets keys escape, and its map is on top. -/
def PickerEscapes (state : PromptState σ) : Prop :=
  ∀ completion, state.completion = some completion →
    completion.picker.escaping = true ∧ state.display.keymaps.frames.head? = some .picker

section Escaping

variable {state : PromptState σ} (registry : Registry σ) (settings : Settings)

theorem pickerEscapes_of_closed (closed : state.completion = none) : state.PickerEscapes := by
  intro completion opened
  rw [closed] at opened
  cases opened

theorem pickerEscapes_useCandidates (closed : state.completion = none) (pageSize : Nat)
    (before : List Char) (candidates : List Candidate) :
    (state.useCandidates pageSize before candidates).state.PickerEscapes := by
  match candidates with
  | [] | [_] => exact pickerEscapes_of_closed closed
  | _ :: _ :: _ =>
      intro completion opened
      obtain rfl := Option.some.inj opened
      exact ⟨rfl, rfl⟩

theorem pickerEscapes_complete (closed : state.completion = none) :
    (state.complete registry settings).state.PickerEscapes := by
  obtain ⟨screen, complete_eq⟩ := exists_complete_eq registry settings state
  rw [complete_eq]
  change (answered _ _ _ _).PickerEscapes
  unfold answered useAnswer
  split
  · exact pickerEscapes_of_closed closed
  · refine pickerEscapes_useCandidates ?_ _ _ _
    exact closed

/-- A key on the line opens no picker but by completing. -/
theorem pickerEscapes_reactLine (closed : state.completion = none) (event : KeyEvent) :
    (state.reactLine registry settings event).Meets PickerEscapes fun _ _ => True := by
  rcases state.reactLine_cases registry settings event with ⟨-, completes⟩ | ⟨-, kept⟩
  · rw [completes]
    exact pickerEscapes_complete registry settings closed
  · refine kept.mono ?_ fun _ _ _ => trivial
    intro later same
    exact pickerEscapes_of_closed (same.1.trans closed)

theorem pickerEscapes_react (escapes : state.PickerEscapes) (event : KeyEvent) :
    (state.react registry settings event).Meets PickerEscapes fun _ _ => True := by
  unfold react
  cases opened : state.completion with
  | none => exact pickerEscapes_reactLine registry settings opened event
  | some completion =>
      obtain ⟨escaping, top⟩ := escapes completion opened
      dsimp only
      cases reacted : Picking.react (state.picking completion) event with
      | wait later =>
          unfold Picking.react at reacted
          split at reacted
          · rename_i picker stays
            obtain rfl : Attempt.state _ = later := Reaction.wait.inj reacted
            intro other same
            obtain rfl := Option.some.inj same
            rw [Picking.eq_of_stay stays]
            exact ⟨escaping, top⟩
          · cases reacted
      | finish result last =>
          -- The picker is off the line before anything else becomes of the key.
          cases result with
          | error error => trivial
          | ok outcome =>
              cases outcome with
              | selected candidate | cancelled => exact pickerEscapes_of_closed rfl
              | escaped escaped => exact pickerEscapes_reactLine registry settings rfl escaped

theorem contract_pickerEscapes :
    (widget registry settings).Contract PickerEscapes fun _ _ => True where
  react _ event escapes := pickerEscapes_react registry settings escapes event
  abandon _ _ _ := trivial

/-- With the picker open, Escape brings back the line and leaves it to the key behind it to do what
that key does by itself. -/
theorem converse_of_unbound {completion : OpenPicker} (opened : state.completion = some completion)
    (escapes : state.PickerEscapes) {event : KeyEvent} (unbound : KeyMap.picker.lookup event = none)
    (rest : List Signal) :
    converse (widget registry settings) state (.key event :: rest) =
      converse (widget registry settings) state
        (.key (.plain .escape) :: .key event :: rest) := by
  obtain ⟨escaping, top⟩ := escapes completion opened
  have meaning (pressed : KeyEvent) :
      (state.picking completion).display.dispatch pressed = KeyMap.picker.lookup pressed :=
    KeyMapStack.dispatch_of_head? top pressed
  have byKey := Picking.react_of_unbound (state.picking completion) event escaping
    ((meaning event).trans unbound)
  have byEscape := Picking.react_of_cancel (state.picking completion) (.plain .escape) escaping
    ((meaning _).trans (by decide))
  let line := (state.closePicker completion (state.picking completion).clear.state).refresh.state
  have escaped : state.react registry settings event = line.reactLine registry settings event := by
    simp only [react, opened, byKey]
    rfl
  have cancelled : state.react registry settings (.plain .escape) = .wait line := by
    simp only [react, opened, byEscape]
    rfl
  have next : line.react registry settings event = line.reactLine registry settings event := rfl
  simp only [converse, widget, escaped, cancelled, next]

end Escaping

end Session.PromptState

namespace Session

/-- The session with other keys to come. -/
def withSignals (session : Session σ) (signals : List Signal) : Session σ :=
  { session with console := { session.console with signals := signals } }

end Session

namespace Shell

/-- The command prompt that a shell opens to read a line. -/
def prompt (shell : Shell σ) (session : Session σ) : PromptState σ :=
  (PromptState.start shell.settings session.history session.store
    (session.console.enterRaw.state.display.enter KeyMap.commandPrompt).2).state

/-- The conversation in which a line is read. -/
def runPrompt (shell : Shell σ) (session : Session σ) :
    Except ReadError String × PromptState σ × List Signal :=
  converse (PromptState.widget shell.registry shell.settings) (shell.prompt session)
    session.console.signals

/-- A session takes over what a conversation has left. -/
def afterPrompt (session : Session σ) (state : PromptState σ) (signals : List Signal) :
    Session σ :=
  let guard := (session.console.enterRaw.state.display.enter KeyMap.commandPrompt).1
  { session with
    console := ⟨(state.display.release guard).leaveRaw, signals⟩
    history := state.history
    store := state.store }

theorem readLine_eq (shell : Shell σ) (session : Session σ) :
    shell.readLine session =
      ((shell.runPrompt session).1,
        afterPrompt session (shell.runPrompt session).2.1 (shell.runPrompt session).2.2) := rfl

/-- The picker on top of the line after these signals, while the line is being read. -/
def pickerAfter (shell : Shell σ) (session : Session σ) (taken : List Signal) :
    Option OpenPicker :=
  ((PromptState.widget shell.registry shell.settings).after (shell.prompt session) taken).bind
    (·.completion)

/-- A key that closes an open picker does what Escape and the key after it do: the line or the error
is the same, and so is the session, with its history and the keys that are left. -/
theorem readLine_closing_key (shell : Shell σ) (session : Session σ) {taken : List Signal}
    (opened : (shell.pickerAfter session taken).isSome) {event : KeyEvent}
    (unbound : KeyMap.picker.lookup event = none) (rest : List Signal) :
    shell.readLine (session.withSignals (taken ++ .key event :: rest)) =
      shell.readLine (session.withSignals
        (taken ++ .key (.plain .escape) :: .key event :: rest)) := by
  obtain ⟨completion, found⟩ := Option.isSome_iff_exists.mp opened
  obtain ⟨state, reached, open_eq⟩ := Option.bind_eq_some_iff.mp found
  have escapes := (PromptState.contract_pickerEscapes shell.registry shell.settings).after
    (PromptState.pickerEscapes_of_closed rfl) reached
  have same := PromptState.converse_of_unbound shell.registry shell.settings open_eq escapes unbound
    rest
  rw [← converse_append reached, ← converse_append reached] at same
  have sameRun (signals : List Signal) :
      shell.runPrompt (session.withSignals signals) =
        converse (PromptState.widget shell.registry shell.settings) (shell.prompt session)
          signals := rfl
  rw [readLine_eq, readLine_eq, sameRun, sameRun, same]
  rfl

/-- A shell with two commands whose names begin alike. -/
def planning : Shell Unit :=
  ⟨.afterCalls [Command.ofName "apply" "Applies a plan", Command.ofName "archive" "Keeps a plan"],
    .default⟩

/-- A session in which nothing has happened yet. -/
def untouched : Session Unit := ⟨.ofKeys [], .inMemory 80, .missing, ()⟩

/-- The picker that Tab opens behind `a` closes on `p`, which goes into the line. -/
theorem readLine_closing_letter :
    (planning.pickerAfter untouched [.key (.plain (.char 'a')), .key (.plain .tab)]).isSome ∧
      KeyMap.picker.lookup (.plain (.char 'p')) = none ∧
      planning.readLine (untouched.withSignals
          ([.key (.plain (.char 'a')), .key (.plain .tab)] ++
            .key (.plain (.char 'p')) :: [.key (.plain .enter)])) =
        planning.readLine (untouched.withSignals
          ([.key (.plain (.char 'a')), .key (.plain .tab)] ++
            .key (.plain .escape) :: .key (.plain (.char 'p')) :: [.key (.plain .enter)])) ∧
      (planning.readLine (untouched.withSignals
          [.key (.plain (.char 'a')), .key (.plain .tab), .key (.plain (.char 'p')),
            .key (.plain .enter)])).1 = .ok "ap" := by
  have opened :
      (planning.pickerAfter untouched [.key (.plain (.char 'a')), .key (.plain .tab)]).isSome := by
    decide +kernel
  have unbound : KeyMap.picker.lookup (.plain (.char 'p')) = none := by decide
  exact ⟨opened, unbound, readLine_closing_key planning untouched opened unbound _,
    by rfl⟩

end Shell

end OperatorShell
