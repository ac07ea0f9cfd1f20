import OperatorShell.Proofs.Console.Mode
import OperatorShell.Session.CommandPrompt

/-!
# Completing the line

Of all that a key can do on the line only a completion opens a picker or calls a provider.  The
answer decides what it does, and waiting for the answer changes the screen and nothing else.
-/

namespace OperatorShell

open Command Session Keys

variable {σ ω α : Type}

theorem Reaction.Meets.mono {during weaker : ω → Prop} {after since : Except ReadError α → ω → Prop}
    {reaction : Reaction ω α} (meets : reaction.Meets during after)
    (waits : ∀ state, during state → weaker state)
    (ends : ∀ result state, after result state → since result state) :
    reaction.Meets weaker since := by
  cases reaction with
  | wait state => exact waits state meets
  | finish result state => exact ends result state meets

/-- The display with another screen. -/
def Display.onScreen (display : Display) (screen : Screen.Drawing) : Display :=
  { display with screen := screen }

namespace Session.PromptState

/-- The prompt with another screen. -/
def onScreen (state : PromptState σ) (screen : Screen.Drawing) : PromptState σ :=
  { state with display := state.display.onScreen screen }

/-- The prompt when a completion has its answer. -/
def answered (state : PromptState σ) (pageSize : Nat) (before : List Char)
    (answer : Except ProviderError (List Candidate) × σ) : PromptState σ :=
  ({ state with store := answer.2 }.useAnswer pageSize before answer.1).state

theorem useAnswer_eq_done (state : PromptState σ) (pageSize : Nat) (before : List Char)
    (answer : Except ProviderError (List Candidate)) :
    state.useAnswer pageSize before answer =
      .done (state.useAnswer pageSize before answer).state := by
  match answer with
  | .error _ | .ok [] | .ok [_] | .ok (_ :: _ :: _) => rfl

/-- Waiting for the answer changes the screen only. -/
theorem exists_complete_eq (registry : Registry σ) (settings : Settings) (state : PromptState σ) :
    ∃ screen, state.complete registry settings =
      .done ((state.onScreen screen).answered settings.pageSize state.editor.buffer.before
        ((plan registry state.store state.editor.buffer.before).run
          (String.ofList state.editor.buffer.before) state.store)) := by
  unfold complete
  dsimp only
  generalize isBusy settings _ _ _ = busy, Plan.run _ _ _ = answer
  cases busy with
  | false => exact ⟨state.display.screen, useAnswer_eq_done ..⟩
  | true => exact ⟨_, useAnswer_eq_done ..⟩

section Keys

variable (registry : Registry σ) (settings : Settings) (state : PromptState σ)

/-- After a completion the prompt goes on. -/
theorem wait_complete :
    ((state.complete registry settings).wait : Reaction (PromptState σ) String) =
      .wait (state.complete registry settings).state := by
  obtain ⟨screen, complete_eq⟩ := exists_complete_eq registry settings state
  rw [complete_eq]
  rfl

/-- The picker on top of the line and the store are the same. -/
def SameBelow (before after : PromptState σ) : Prop :=
  after.completion = before.completion ∧ after.store = before.store

theorem sameBelow_act {action : Action} (other : action ≠ .complete) :
    (state.act registry settings action).Keeps state.SameBelow := by
  cases action with
  | complete => exact absurd rfl other
  | submit | endOfInput =>
      dsimp only [act]
      split <;> exact ⟨rfl, rfl⟩
  | historyPrevious =>
      change state.SameBelow state.showOlder.refresh.state
      unfold showOlder
      dsimp only
      split <;> exact ⟨rfl, rfl⟩
  | historyNext =>
      change state.SameBelow state.showNewer.refresh.state
      unfold showNewer
      split <;> exact ⟨rfl, rfl⟩
  | _ => exact ⟨rfl, rfl⟩

/-- A key on the line completes it, or it leaves alone what is on top of the line and the store. -/
theorem reactLine_cases (event : KeyEvent) :
    (state.display.dispatch event = some .complete ∧
      state.reactLine registry settings event =
        .wait (state.complete registry settings).state) ∨
    (state.display.dispatch event ≠ some .complete ∧
      (state.reactLine registry settings event).Keeps state.SameBelow) := by
  unfold reactLine
  cases meant : state.display.dispatch event with
  | none => exact .inr ⟨nofun, rfl, rfl⟩
  | some action =>
      by_cases completes : action = .complete
      · subst completes
        exact .inl ⟨rfl, state.wait_complete registry settings⟩
      · exact .inr ⟨mt Option.some.inj completes, state.sameBelow_act registry settings completes⟩

end Keys

end Session.PromptState

end OperatorShell
