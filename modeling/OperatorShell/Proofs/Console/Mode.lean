import OperatorShell.Question.Widgets

/-!
# What widgets keep

A conversation is a run of reactions, so what holds between two keys and when a widget is done
is shown for one reaction and holds of every conversation, however it ends.  The mode of a
display decides what becomes of keys: the key maps in use and the depth of raw mode.  A widget
has a map of its own on top while it reads and leaves the mode that it found.
-/

namespace OperatorShell

open Keys

section Conversation

variable {ω α : Type} {widget : Widget ω α} {during : ω → Prop}
  {after : Except ReadError α → ω → Prop}

/-- What holds of a widget after a reaction, whether it goes on or is done. -/
def Reaction.Meets (during : ω → Prop) (after : Except ReadError α → ω → Prop) :
    Reaction ω α → Prop
  | .wait state => during state
  | .finish result state => after result state

/-- What holds after a reaction in either case. -/
abbrev Reaction.Keeps (holds : ω → Prop) (reaction : Reaction ω α) : Prop :=
  reaction.Meets holds fun _ => holds

namespace Attempt

variable {attempt : Attempt ω}

/-- A widget meets what it has to if it does with and without a fault. -/
theorem meets_react {goOn : ω → Reaction ω α}
    (failed : ∀ fault, after (.error (.fault fault)) attempt.state)
    (went : (goOn attempt.state).Meets during after) :
    (attempt.react goOn).Meets during after := by
  unfold react
  cases attempt.fault with
  | none => exact went
  | some fault => exact failed fault

theorem keeps_wait {holds : ω → Prop} (kept : holds attempt.state) :
    (attempt.wait : Reaction ω α).Keeps holds :=
  meets_react (fun _ => kept) kept

theorem keeps_finish {holds : ω → Prop} (kept : holds attempt.state)
    (result : Except ReadError α) : (attempt.finish result).Keeps holds :=
  meets_react (fun _ => kept) kept

/-- What holds with and without a fault holds of the end of an attempt. -/
theorem holds_into {goOn : ω → Except ReadError α × ω} {holds : ω → Prop}
    (kept : holds attempt.state) (went : holds (goOn attempt.state).2) :
    holds (attempt.into goOn).2 := by
  unfold into
  cases attempt.fault with
  | none => exact went
  | some fault => exact kept

end Attempt

/-- What holds of a widget between two keys and when it is done. -/
structure Widget.Contract (widget : Widget ω α) (during : ω → Prop)
    (after : Except ReadError α → ω → Prop) : Prop where
  react : ∀ state event, during state → (widget.react state event).Meets during after
  abandon : ∀ state error, during state → after (.error error) (widget.abandon state).state

theorem Widget.Contract.leave (contract : widget.Contract during after) {state : ω}
    (holds : during state) (error : ReadError) (rest : List Signal) :
    let ended := widget.leave state error rest
    after ended.1 ended.2.1 := by
  simp only [Widget.leave, Attempt.into, Attempt.map]
  cases (widget.abandon state).fault with
  | none => exact contract.abandon state error holds
  | some fault => exact contract.abandon state (.fault fault) holds

/-- A contract holds of conversations, whether they end with a result, for want of keys, or with
a fault of the key source or of the terminal. -/
theorem Widget.Contract.converse (contract : widget.Contract during after) {state : ω}
    (holds : during state) (signals : List Signal) :
    let ended := OperatorShell.converse widget state signals
    after ended.1 ended.2.1 := by
  induction signals generalizing state with
  | nil => exact contract.leave holds .closed []
  | cons signal rest ih =>
      cases signal with
      | pending => exact ih holds
      | closed => exact contract.leave holds .closed rest
      | failed message => exact contract.leave holds (.fault (.source message)) rest
      | key event =>
          have reacted := contract.react state event holds
          simp only [OperatorShell.converse]
          cases reaction : widget.react state event with
          | wait next =>
              rw [reaction] at reacted
              exact ih reacted
          | finish result last =>
              rw [reaction] at reacted
              exact reacted

/-- Two contracts hold together. -/
theorem Widget.Contract.and {others : ω → Prop} {since : Except ReadError α → ω → Prop}
    (contract : widget.Contract during after) (second : widget.Contract others since) :
    widget.Contract (fun state => during state ∧ others state)
      (fun result state => after result state ∧ since result state) where
  react state event holds := by
    have first := contract.react state event holds.1
    have second := second.react state event holds.2
    cases reaction : widget.react state event with
    | wait next =>
        rw [reaction] at first second
        exact ⟨first, second⟩
    | finish result last =>
        rw [reaction] at first second
        exact ⟨first, second⟩
  abandon state error holds :=
    ⟨contract.abandon state error holds.1, second.abandon state error holds.2⟩

/-- What every reaction leaves as it is, a conversation leaves as it is. -/
theorem Widget.converse_keeps {β : Type} (widget : Widget ω α) (measure : ω → β)
    (react : ∀ state event, (widget.react state event).Keeps (measure · = measure state))
    (abandon : ∀ state, measure (widget.abandon state).state = measure state) (state : ω)
    (signals : List Signal) : measure (converse widget state signals).2.1 = measure state := by
  have contract : widget.Contract (measure · = measure state)
      (fun _ last => measure last = measure state) := by
    constructor
    · intro current event same
      rw [← same]
      exact react current event
    · intro current error same
      rw [abandon, same]
  exact contract.converse rfl signals

/-- What the first screen and every reaction leave as it is, a widget leaves as it is. -/
theorem Widget.run_keeps {β : Type} (widget : Widget ω α) (measure : ω → β)
    (react : ∀ state event, (widget.react state event).Keeps (measure · = measure state))
    (abandon : ∀ state, measure (widget.abandon state).state = measure state)
    (opened : Attempt ω) (signals : List Signal) :
    measure (widget.run opened signals).2.1 = measure opened.state := by
  unfold run Attempt.into
  split
  · exact widget.converse_keeps measure react abandon opened.state signals
  · rfl

end Conversation

namespace Display

variable {device : Device}

/-- The key maps in use and the depth of raw mode. -/
def mode (display : Display device) : KeyMapStack × Nat := (display.keymaps, display.rawDepth)

/-- Drawing leaves the mode as it is, also when it fails. -/
@[simp] theorem mode_draw (display : Display device) (drawing : Screen.Drawing) :
    (display.draw drawing).state.mode = display.mode := by
  unfold draw
  split <;> rfl

/-- Releasing a guard looks at the mode only. -/
theorem mode_release_congr {left right : Display device} (same : left.mode = right.mode)
    (guard : Guard) : (left.release guard).mode = (right.release guard).mode := by
  obtain ⟨keymaps_eq, depth_eq⟩ := Prod.mk.inj same
  simp only [mode, release, keymaps_eq, depth_eq]

/-- Releasing a guard gives back the mode before its map was entered. -/
theorem mode_release {outer inner : Display device} (map : KeyMap)
    (same : inner.mode = (outer.enter map).2.mode) :
    (inner.release (outer.enter map).1).mode = outer.mode := by
  rw [mode_release_congr same]
  simp [mode, release, enter]

/-- Raw mode is one deeper, or it is refused and the mode stays. -/
theorem mode_enterRaw (display : Display device) :
    display.enterRaw.state.mode =
      match display.enterRaw.fault with
      | none => (display.keymaps, display.rawDepth + 1)
      | some _ => display.mode := by
  unfold enterRaw
  dsimp only
  split <;> rfl

/-- Leaving raw mode gives back the mode before it was entered. -/
theorem mode_leaveRaw {outer inner : Display device}
    (entered : outer.enterRaw.fault = none) (same : inner.mode = outer.enterRaw.state.mode) :
    inner.leaveRaw.mode = outer.mode := by
  rw [mode_enterRaw, entered] at same
  obtain ⟨keymaps_eq, depth_eq⟩ := Prod.mk.inj same
  simp [mode, leaveRaw, keymaps_eq, depth_eq]

/-- Where raw mode is refused, the mode stays. -/
theorem mode_enterRaw_of_fault {display : Display device} {fault : Fault}
    (refused : display.enterRaw.fault = some fault) :
    display.enterRaw.state.mode = display.mode := by
  rw [mode_enterRaw, refused]

end Display

namespace Console

variable {device : Device} {α : Type}
  {talk : Console device → Except ReadError α × Console device}

/-- The mode of the display is what it was. -/
def SameMode (before after : Console device) : Prop := after.display.mode = before.display.mode

theorem SameMode.trans {before between after : Console device} (first : before.SameMode between)
    (second : between.SameMode after) : before.SameMode after :=
  Eq.trans second first

theorem sameMode_draw (console : Console device) (drawing : Screen.Drawing) :
    console.SameMode (console.draw drawing).state :=
  console.display.mode_draw drawing

theorem sameMode_writeLine (console : Console device) (text : String) :
    console.SameMode (console.writeLine text).state :=
  console.sameMode_draw _

theorem sameMode_raw (keeps : ∀ console, SameMode console (talk console).2)
    (console : Console device) : SameMode console (console.raw talk).2 := by
  unfold raw Attempt.into
  cases entered : console.enterRaw.fault with
  | none => exact Display.mode_leaveRaw entered (keeps console.enterRaw.state)
  | some fault => exact Display.mode_enterRaw_of_fault entered

theorem sameMode_within (keeps : ∀ console, SameMode console (talk console).2)
    (console : Console device) (map : KeyMap) : SameMode console (console.within map talk).2 :=
  Display.mode_release map (keeps { console with display := (console.display.enter map).2 })

theorem sameMode_modal (keeps : ∀ console, SameMode console (talk console).2)
    (console : Console device) (map : KeyMap) : SameMode console (console.modal map talk).2 :=
  sameMode_raw (fun console => sameMode_within keeps console map) console

/-- Editing keeps the mode if every reaction does. -/
theorem sameMode_edit (console : Console device) (editor : Edit.Editor)
    {react : Editing device → KeyEvent → Reaction (Editing device) α}
    (keeps : ∀ editing event, (react editing event).Keeps
      (·.display.mode = editing.display.mode)) :
    SameMode console (console.edit editor react).2 := by
  have kept := Widget.run_keeps ⟨react, .done⟩ (·.display.mode) keeps (fun _ => rfl)
    (Editing.start editor console.display) console.signals
  exact kept.trans (console.display.mode_draw _)

end Console

section Questions

variable {device : Device}

@[simp] theorem Editing.mode_draw (editing : Editing device)
    (drawing : Edit.Editor → Screen.Drawing) :
    (editing.draw drawing).state.display.mode = editing.display.mode :=
  editing.display.mode_draw _

@[simp] theorem Editing.mode_update (editing : Editing device)
    (change : Edit.Editor → Edit.Editor) :
    (editing.update change).state.display.mode = editing.display.mode :=
  editing.display.mode_draw _

/-- A prompt draws and changes its line, whatever the key. -/
theorem Prompt.keeps_react (prompt : Prompt) (editing : Editing device) (event : KeyEvent) :
    (prompt.react editing event).Keeps
      (·.display.mode = editing.display.mode) := by
  unfold Prompt.react
  split
  · exact Attempt.keeps_finish (editing.mode_update _) _
  · dsimp only
    split
    · exact Attempt.keeps_wait (editing.mode_draw _)
    · exact Attempt.keeps_finish (editing.mode_update _) _
  · exact Attempt.keeps_wait (editing.mode_update _)
  · rfl

theorem Confirmation.keeps_react (default : Bool) (editing : Editing device)
    (event : KeyEvent) :
    (react default editing event).Keeps
      (·.display.mode = editing.display.mode) := by
  unfold react
  split
  · exact Attempt.keeps_finish (editing.mode_update _) _
  · split
    · exact Attempt.keeps_finish (editing.mode_update _) _
    · rfl

theorem Prompt.sameMode_read (prompt : Prompt) (console : Console device) :
    console.SameMode (prompt.read console).2 :=
  Console.sameMode_modal
    (fun console => console.sameMode_edit _ prompt.keeps_react) console .editing

theorem Confirmation.sameMode_read (question : String) (default : Bool)
    (console : Console device) : console.SameMode (read question default console).2 :=
  Console.sameMode_modal
    (fun console => console.sameMode_edit _ (keeps_react default)) console .confirmation

namespace Picking

@[simp] theorem mode_redraw (picking : Picking device) :
    picking.redraw.state.display.mode = picking.display.mode :=
  picking.display.mode_draw _

@[simp] theorem mode_clear (picking : Picking device) :
    picking.clear.state.display.mode = picking.display.mode :=
  picking.display.mode_draw _

@[simp] theorem mode_start (picker : Picker) (display : Display device) :
    (start picker display).state.display.mode = display.mode := by
  unfold start Attempt.andThen
  split
  · rw [mode_redraw]
    exact display.mode_draw _
  · exact display.mode_draw _

/-- A picker draws and moves, whatever the key. -/
theorem keeps_react (picking : Picking device) (event : KeyEvent) :
    (react picking event).Keeps (·.display.mode = picking.display.mode) := by
  unfold react
  split
  · exact Attempt.keeps_wait (mode_redraw _)
  · exact Attempt.keeps_finish picking.mode_clear _

end Picking

theorem Picker.sameMode_pick (picker : Picker) (console : Console device) :
    console.SameMode (picker.pick console).2.2 := by
  unfold pick
  split
  · rfl
  · apply Display.mode_release .picker
    have kept := Picking.widget.run_keeps (·.display.mode) Picking.keeps_react
      Picking.mode_clear (Picking.start picker (console.display.enter .picker).2)
      console.signals
    exact kept.trans (Picking.mode_start ..)

theorem ChoiceList.sameMode_close (editor : Edit.Editor) (console : Console device)
    (result : Except ReadError PickerOutcome) :
    console.SameMode (close editor console result).2 := by
  unfold close
  split
  all_goals
    exact Attempt.holds_into (console.sameMode_draw _) (console.sameMode_draw _)

theorem ChoiceList.sameMode_read (header : String) (candidates : List Candidate)
    (pageSize : Nat) (console : Console device) :
    console.SameMode (read header candidates pageSize console).2 := by
  unfold read
  split
  · rfl
  · apply Console.sameMode_raw
    intro console
    have drawn := console.sameMode_draw (Edit.Editor.ofHeader header none).render
    apply Attempt.holds_into drawn
    have picked := (Picker.ofCandidates candidates pageSize false).sameMode_pick
      (console.draw (Edit.Editor.ofHeader header none).render).state
    exact (drawn.trans picked).trans (sameMode_close ..)

/-- A question of a command leaves the mode it found. -/
theorem Question.sameMode_put (style : AskStyle) (question : Question)
    (console : Console device) :
    console.SameMode (question.put style console).2 := by
  cases question with
  | confirm question default => exact Confirmation.sameMode_read question default console
  | ask prompt => exact prompt.sameMode_read console
  | secret header => exact Prompt.sameMode_read _ console
  | choose header candidates =>
      exact ChoiceList.sameMode_read header candidates style.pageSize console

end Questions

end OperatorShell
