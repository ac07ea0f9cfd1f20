import OperatorShell.Console

/-!
# Two runs in step

Two widgets that react alike to each key, the second one to a changed key, end their
conversations alike: they take as many keys, and what is noted about them on the way is the same.
The relation between their states is shown for one reaction and lifted here to the conversation.
-/

namespace OperatorShell

open Keys

variable {ω α ν : Type}

/-- Two widgets go on alike, or both are done alike. -/
def Reaction.Matches (during : ω → ω → Prop)
    (after : Except ReadError α → ω → Except ReadError α → ω → Prop) :
    Reaction ω α → Reaction ω α → Prop
  | .wait left, .wait right => during left right
  | .finish answer left, .finish other right => after answer left other right
  | _, _ => False

/-- The signal with another key press, if it is one. -/
def Signal.map (change : KeyEvent → KeyEvent) : Signal → Signal
  | .key event => .key (change event)
  | signal => signal

theorem Signal.map_id (signals : List Signal) : signals.map (map id) = signals := by
  have same : map id = id := by
    funext signal
    cases signal <;> rfl
  rw [same, List.map_id]

/-- What is noted about a conversation, key by key. -/
def Widget.notes (widget : Widget ω α) (note : ω → KeyEvent → List ν) : ω → List Signal → List ν
  | _, [] => []
  | state, .pending :: rest => widget.notes note state rest
  | state, .key event :: rest =>
      note state event ++
        match widget.react state event with
        | .wait next => widget.notes note next rest
        | .finish _ _ => []
  | _, .closed :: _ | _, .failed _ :: _ => []

/-- From states that match, two widgets react alike to a key and to the changed one, and the same is
noted about both. -/
structure Widget.InStep (first second : Widget ω α) (change : KeyEvent → KeyEvent)
    (firstNote secondNote : ω → KeyEvent → List ν) (during : ω → ω → Prop)
    (after : Except ReadError α → ω → Except ReadError α → ω → Prop) : Prop where
  react : ∀ left right event, during left right →
    (first.react left event).Matches during after (second.react right (change event))
  note : ∀ left right event, during left right →
    firstNote left event = secondNote right (change event)
  fault : ∀ left right, during left right →
    (second.abandon right).fault = (first.abandon left).fault
  abandon : ∀ left right error, during left right →
    after (.error error) (first.abandon left).state (.error error) (second.abandon right).state

section Conversation

variable {first second : Widget ω α} {change : KeyEvent → KeyEvent}
  {firstNote secondNote : ω → KeyEvent → List ν} {during : ω → ω → Prop}
  {after : Except ReadError α → ω → Except ReadError α → ω → Prop} {left right : ω}

theorem Widget.InStep.leave (inStep : first.InStep second change firstNote secondNote during after)
    (matched : during left right) (error : ReadError) (rest others : List Signal) :
    let one := first.leave left error rest
    let two := second.leave right error others
    after one.1 one.2.1 two.1 two.2.1 := by
  simp only [Widget.leave, Attempt.into, Attempt.map, inStep.fault left right matched]
  cases (first.abandon left).fault with
  | none => exact inStep.abandon left right error matched
  | some fault => exact inStep.abandon left right (.fault fault) matched

/-- In step two conversations end alike, take as many keys and have the same notes. -/
theorem Widget.InStep.converse
    (inStep : first.InStep second change firstNote secondNote during after)
    (start : during left right) (signals : List Signal) :
    let one := OperatorShell.converse first left signals
    let two := OperatorShell.converse second right (signals.map (Signal.map change))
    after one.1 one.2.1 two.1 two.2.1 ∧ two.2.2 = one.2.2.map (Signal.map change) ∧
      second.notes secondNote right (signals.map (Signal.map change)) =
        first.notes firstNote left signals := by
  induction signals generalizing left right with
  | nil =>
      refine ⟨inStep.leave start .closed [] [], ?_, rfl⟩
      simp [OperatorShell.converse]
  | cons signal rest ih =>
      cases signal with
      | pending => exact ih start
      | closed =>
          refine ⟨inStep.leave start .closed rest _, ?_, rfl⟩
          simp [OperatorShell.converse, Signal.map]
      | failed message =>
          refine ⟨inStep.leave start (.fault (.source message)) rest _, ?_, rfl⟩
          simp [OperatorShell.converse, Signal.map]
      | key event =>
          have reacted := inStep.react left right event start
          simp only [List.map_cons, Signal.map, OperatorShell.converse, notes,
            inStep.note left right event start]
          cases one : first.react left event with
          | wait next =>
              cases two : second.react right (change event) with
              | wait other =>
                  rw [one, two] at reacted
                  obtain ⟨ended, rest_eq, notes_eq⟩ := ih reacted
                  exact ⟨ended, rest_eq, congrArg _ notes_eq⟩
              | finish answer other =>
                  rw [one, two] at reacted
                  exact reacted.elim
          | finish answer next =>
              cases two : second.react right (change event) with
              | wait other =>
                  rw [one, two] at reacted
                  exact reacted.elim
              | finish other last =>
                  rw [one, two] at reacted
                  exact ⟨reacted, rfl, rfl⟩

end Conversation

end OperatorShell
