import OperatorShell.Proofs.Completion.Delays
import OperatorShell.Proofs.Console.InStep
import OperatorShell.Proofs.Console.Mode
import OperatorShell.Proofs.Session.PickerClosing

/-!
# Waiting for candidates

A completion that takes longer than the debounce shows that it is busy, and that is all there is to
it: two shells that differ only in the delays of their providers and in the debounce go through the
same states but for what is on the screen, key by key, and call the same providers.
-/

namespace OperatorShell

open Command Session Keys

variable {σ ω α ν β : Type}

section Conversation

theorem Widget.measure_leave {widget : Widget ω α} {measure : ω → β}
    (abandon : ∀ state, measure (widget.abandon state).state = measure state) (state : ω)
    (error : ReadError) (rest : List Signal) :
    measure (widget.leave state error rest).2.1 = measure state := by
  unfold leave Attempt.into
  split <;> exact abandon state

/-- If the notes on a key account for what a reaction changes, all notes account for what the
conversation changes. -/
theorem Widget.measure_converse (widget : Widget ω α) {note : ω → KeyEvent → List ν}
    {measure : ω → β} {step : β → ν → β}
    (react : ∀ state event, (widget.react state event).Keeps
      (measure · = (note state event).foldl step (measure state)))
    (abandon : ∀ state, measure (widget.abandon state).state = measure state) (state : ω)
    (signals : List Signal) :
    measure (converse widget state signals).2.1 =
      (widget.notes note state signals).foldl step (measure state) := by
  induction signals generalizing state with
  | nil => exact measure_leave abandon state .closed []
  | cons signal rest ih =>
      cases signal with
      | pending => exact ih state
      | closed | failed message => exact measure_leave abandon state _ rest
      | key event =>
          have reacted := react state event
          rw [converse, notes, List.foldl_append]
          cases reaction : widget.react state event with
          | wait next =>
              rw [reaction] at reacted
              rw [← show measure next = _ from reacted]
              exact ih next
          | finish result last =>
              rw [reaction] at reacted
              exact reacted

end Conversation

/-- The shell without the delays of its providers and the debounce. -/
def Shell.undelayed (shell : Shell σ) : Shell σ :=
  ⟨shell.registry.undelayed, { shell.settings with busyDebounce := 0 }⟩

namespace Session.PromptState

/-- The prompts differ in nothing but what is on the screen. -/
def SameButScreen (left right : PromptState σ) : Prop := ∃ screen, right = left.onScreen screen

/-- The reactions differ in nothing but what is on the screen. -/
abbrev SameReaction : Reaction (PromptState σ) String → Reaction (PromptState σ) String → Prop :=
  Reaction.Matches SameButScreen fun answer left other right =>
    other = answer ∧ SameButScreen left right

/-- The call that a completion at the cursor makes. -/
def completionCalls (registry : Registry σ) (state : PromptState σ) : List (ProviderCall σ) :=
  let before := state.editor.buffer.before
  ((plan registry state.store before).call? (String.ofList before)).toList

/-- The calls that a key on the line makes. -/
def lineCalls (registry : Registry σ) (state : PromptState σ) (event : KeyEvent) :
    List (ProviderCall σ) :=
  match state.display.dispatch event with
  | some .complete => state.completionCalls registry
  | _ => []

/-- The calls that a key makes.  A key that escapes from a picker is one on the line. -/
def calls (registry : Registry σ) (state : PromptState σ) (event : KeyEvent) :
    List (ProviderCall σ) :=
  match state.completion with
  | none => state.lineCalls registry event
  | some completion =>
      match Picking.react (state.picking completion) event with
      | .finish (.ok (.escaped event)) picking =>
          (state.closePicker completion picking).refresh.state.lineCalls registry event
      | _ => []

section SameButScreen

/-- What decides about a key is not on the screen. -/
@[simp] theorem dispatch_onScreen (state : PromptState σ) (screen : Screen.Drawing)
    (event : KeyEvent) :
    (state.onScreen screen).display.dispatch event = state.display.dispatch event := rfl

@[simp] theorem completion_onScreen (state : PromptState σ) (screen : Screen.Drawing) :
    (state.onScreen screen).completion = state.completion := rfl

/-- What an open picker makes of a key. -/
def choice (state : PromptState σ) (completion : OpenPicker) (event : KeyEvent) : Picking.Choice :=
  Picking.choose completion.picker event (state.display.dispatch event)

theorem react_picking (state : PromptState σ) (completion : OpenPicker) (event : KeyEvent) :
    Picking.react (state.picking completion) event =
      match state.choice completion event with
      | .stay picker =>
          .wait (Picking.redraw { state.picking completion with picker := picker }).state
      | .leave result => .finish result (state.picking completion).clear.state := rfl

@[simp] theorem choice_onScreen (state : PromptState σ) (screen : Screen.Drawing)
    (completion : OpenPicker) (event : KeyEvent) :
    (state.onScreen screen).choice completion event = state.choice completion event := rfl

theorem SameButScreen.refresh {left right : PromptState σ} (same : left.SameButScreen right) :
    left.refresh.state.SameButScreen right.refresh.state := by
  obtain ⟨screen, rfl⟩ := same
  exact ⟨_, rfl⟩

theorem answered_onScreen (state : PromptState σ) (screen : Screen.Drawing) (pageSize : Nat)
    (before : List Char) (answer : Except ProviderError (List Candidate) × σ) :
    SameButScreen (state.answered pageSize before answer)
      ((state.onScreen screen).answered pageSize before answer) := by
  match answer with
  | (.error _, _) | (.ok [], _) | (.ok [_], _) | (.ok (_ :: _ :: _), _) => exact ⟨_, rfl⟩

variable {left right : Shell σ}

theorem complete_onScreen (same : left.undelayed = right.undelayed) (state : PromptState σ)
    (screen : Screen.Drawing) :
    SameReaction (state.complete left.registry left.settings).wait
      ((state.onScreen screen).complete right.registry right.settings).wait := by
  obtain ⟨registry_eq, settings_eq⟩ := Shell.mk.inj same
  have pageSize_eq := (Settings.mk.inj settings_eq).2.2.2.2.1
  obtain ⟨first, left_eq⟩ := exists_complete_eq left.registry left.settings state
  obtain ⟨second, right_eq⟩ :=
    exists_complete_eq right.registry right.settings (state.onScreen screen)
  rw [left_eq, right_eq, ← pageSize_eq, run_plan_of_undelayed registry_eq]
  exact answered_onScreen (state.onScreen first) second ..

theorem showOlder_onScreen (state : PromptState σ) (screen : Screen.Drawing) :
    SameButScreen state.showOlder (state.onScreen screen).showOlder := by
  refine ⟨screen, ?_⟩
  simp only [showOlder, onScreen]
  cases state.history.previous.1 <;> rfl

theorem showNewer_onScreen (state : PromptState σ) (screen : Screen.Drawing) :
    SameButScreen state.showNewer (state.onScreen screen).showNewer := by
  refine ⟨screen, ?_⟩
  by_cases fresh : state.history.scroll = none <;>
    simp only [showNewer, onScreen, fresh, if_true, if_false]
  rfl

/-- An action has the same effect on prompts that differ only on the screen. -/
theorem act_onScreen (same : left.undelayed = right.undelayed) (state : PromptState σ)
    (screen : Screen.Drawing) (action : Action) :
    SameReaction (state.act left.registry left.settings action)
      ((state.onScreen screen).act right.registry right.settings action) := by
  cases action with
  | interrupt => exact ⟨rfl, _, rfl⟩
  | submit =>
      cases blank : Text.isBlankText state.editor.buffer.text <;>
        simp only [act, onScreen, blank, if_true, Bool.false_eq_true, if_false]
      · exact ⟨rfl, _, rfl⟩
      · exact ⟨_, rfl⟩
  | endOfInput =>
      by_cases empty : state.editor.buffer.text = [] <;>
        simp only [act, onScreen, empty, if_true, if_false]
      · exact ⟨rfl, _, rfl⟩
      · exact ⟨_, rfl⟩
  | historyPrevious => exact (showOlder_onScreen state screen).refresh
  | historyNext => exact (showNewer_onScreen state screen).refresh
  | complete => exact complete_onScreen same state screen
  | _ => exact ⟨_, rfl⟩

theorem reactLine_onScreen (same : left.undelayed = right.undelayed) (state : PromptState σ)
    (screen : Screen.Drawing) (event : KeyEvent) :
    SameReaction (state.reactLine left.registry left.settings event)
      ((state.onScreen screen).reactLine right.registry right.settings event) := by
  rw [reactLine, reactLine, dispatch_onScreen]
  cases state.display.dispatch event with
  | some action => exact act_onScreen same state screen action
  | none => exact ⟨screen, rfl⟩

theorem resume_onScreen (same : left.undelayed = right.undelayed) (state : PromptState σ)
    (screen : Screen.Drawing) (before : List Char) (result : Except ReadError PickerOutcome) :
    SameReaction (state.resume left.registry left.settings before result)
      ((state.onScreen screen).resume right.registry right.settings before result) := by
  cases result with
  | error error => exact ⟨rfl, screen, rfl⟩
  | ok outcome =>
      cases outcome with
      | selected candidate | cancelled => exact ⟨_, rfl⟩
      | escaped event => exact reactLine_onScreen same state.refresh.state _ event

theorem react_onScreen (same : left.undelayed = right.undelayed) (state : PromptState σ)
    (screen : Screen.Drawing) (event : KeyEvent) :
    SameReaction (state.react left.registry left.settings event)
      ((state.onScreen screen).react right.registry right.settings event) := by
  cases opened : state.completion with
  | none =>
      simpa only [react, completion_onScreen, opened] using
        reactLine_onScreen same state screen event
  | some completion =>
      simp only [react, completion_onScreen, opened, react_picking, choice_onScreen]
      cases state.choice completion event with
      | stay picker => exact ⟨_, rfl⟩
      | leave result =>
          let line := state.closePicker completion (state.picking completion).clear.state
          exact resume_onScreen same line _ completion.before result

theorem completionCalls_onScreen (same : left.undelayed = right.undelayed) (state : PromptState σ)
    (screen : Screen.Drawing) :
    (state.onScreen screen).completionCalls right.registry =
      state.completionCalls left.registry :=
  congrArg Option.toList (call?_plan_of_undelayed (Shell.mk.inj same).1 ..).symm

theorem lineCalls_onScreen (same : left.undelayed = right.undelayed) (state : PromptState σ)
    (screen : Screen.Drawing) (event : KeyEvent) :
    (state.onScreen screen).lineCalls right.registry event =
      state.lineCalls left.registry event := by
  rw [lineCalls, lineCalls, dispatch_onScreen, completionCalls_onScreen same]

theorem calls_onScreen (same : left.undelayed = right.undelayed) (state : PromptState σ)
    (screen : Screen.Drawing) (event : KeyEvent) :
    (state.onScreen screen).calls right.registry event = state.calls left.registry event := by
  cases opened : state.completion with
  | none =>
      simpa only [calls, completion_onScreen, opened] using
        lineCalls_onScreen same state screen event
  | some completion =>
      simp only [calls, completion_onScreen, opened, react_picking, choice_onScreen]
      cases state.choice completion event with
      | stay picker => rfl
      | leave result =>
          cases result with
          | error error => rfl
          | ok outcome =>
              cases outcome with
              | selected candidate | cancelled => rfl
              | escaped pressed =>
                  let line := state.closePicker completion (state.picking completion).clear.state
                  exact lineCalls_onScreen same line.refresh.state _ pressed

theorem inStep_widget (same : left.undelayed = right.undelayed) :
    (widget left.registry left.settings).InStep (widget right.registry right.settings) id
      (calls left.registry) (calls right.registry) SameButScreen
      fun answer left other right => other = answer ∧ SameButScreen left right where
  react state _ event matched := by
    obtain ⟨screen, rfl⟩ := matched
    exact react_onScreen same state screen event
  note state _ event matched := by
    obtain ⟨screen, rfl⟩ := matched
    exact (calls_onScreen same state screen event).symm
  fault state _ matched := by
    obtain ⟨screen, rfl⟩ := matched
    simp only [widget, abandon, completion_onScreen]
    cases state.completion <;> rfl
  abandon state _ _ matched := by
    obtain ⟨screen, rfl⟩ := matched
    refine ⟨rfl, ?_⟩
    simp only [widget, abandon, completion_onScreen]
    cases state.completion <;> exact ⟨_, rfl⟩

end SameButScreen

section Calls

variable (registry : Registry σ) (settings : Settings)

/-- The store after these calls. -/
def storeAfter (store : σ) (calls : List (ProviderCall σ)) : σ :=
  calls.foldl (fun store call => call.leaves store) store

theorem store_run_plan (plan : Plan σ) (line : String) (store : σ) :
    (plan.run line store).2 = storeAfter store (plan.call? line).toList := by
  cases plan with
  | ready candidates => rfl
  | ask provider target stem =>
      rw [Plan.run]
      change _ = (provider.candidates line store).2
      rcases provider.candidates line store with ⟨_ | candidates, after⟩ <;> rfl

theorem store_answered (state : PromptState σ) (pageSize : Nat) (before : List Char)
    (answer : Except ProviderError (List Candidate) × σ) :
    (state.answered pageSize before answer).store = answer.2 := by
  match answer with
  | (.error _, _) | (.ok [], _) | (.ok [_], _) | (.ok (_ :: _ :: _), _) => rfl

theorem store_complete (state : PromptState σ) :
    (state.complete registry settings).state.store =
      storeAfter state.store (state.completionCalls registry) := by
  obtain ⟨screen, complete_eq⟩ := exists_complete_eq registry settings state
  rw [complete_eq]
  exact (store_answered ..).trans (store_run_plan ..)

/-- The calls account for what becomes of the store. -/
abbrev Accounted (state : PromptState σ) (calls : List (ProviderCall σ)) :
    Reaction (PromptState σ) String → Prop :=
  Reaction.Keeps (·.store = storeAfter state.store calls)

theorem accounted_reactLine (state : PromptState σ) (event : KeyEvent) :
    state.Accounted (state.lineCalls registry event)
      (state.reactLine registry settings event) := by
  rcases state.reactLine_cases registry settings event with
    ⟨meant, completes⟩ | ⟨other, kept⟩
  · rw [completes, lineCalls, meant]
    exact store_complete registry settings state
  · have no_calls : state.lineCalls registry event = [] := by
      unfold lineCalls
      split
      · rename_i meant
        exact absurd meant other
      · rfl
    rw [no_calls]
    exact kept.mono (fun _ same => same.2) fun _ _ same => same.2

theorem accounted_react (state : PromptState σ) (event : KeyEvent) :
    state.Accounted (state.calls registry event) (state.react registry settings event) := by
  unfold react calls
  cases state.completion with
  | none => exact accounted_reactLine registry settings state event
  | some completion =>
      dsimp only
      cases Picking.react (state.picking completion) event with
      | wait picking => rfl
      | finish result picking =>
          cases result with
          | error error => rfl
          | ok outcome =>
              cases outcome with
              | selected candidate | cancelled => rfl
              | escaped pressed =>
                  exact accounted_reactLine registry settings
                    (state.closePicker completion picking).refresh.state pressed

theorem store_abandon (state : PromptState σ) : state.abandon.state.store = state.store := by
  unfold abandon
  split <;> rfl

end Calls

end Session.PromptState

/-- The session with another screen. -/
def Session.onScreen (session : Session σ) (screen : Screen.Drawing) : Session σ :=
  { session with
    console := { session.console with display := session.console.display.onScreen screen } }

namespace Shell

/-- The calls of providers while a line is being read, one after another. -/
def providerCalls (shell : Shell σ) (session : Session σ) : List (ProviderCall σ) :=
  (PromptState.widget shell.registry shell.settings).notes (PromptState.calls shell.registry)
    (shell.prompt session) session.console.signals

theorem prompt_onScreen {left right : Shell σ} (same : left.undelayed = right.undelayed)
    (session : Session σ) : (left.prompt session).SameButScreen (right.prompt session) := by
  obtain ⟨-, settings_eq⟩ := Shell.mk.inj same
  have prompt_eq := (Settings.mk.inj settings_eq).1
  refine ⟨(left.prompt session).display.screen, ?_⟩
  simp only [prompt, PromptState.start, prompt_eq]
  rfl

theorem runPrompt_undelayed {left right : Shell σ} (same : left.undelayed = right.undelayed)
    (session : Session σ) :
    let one := left.runPrompt session
    let other := right.runPrompt session
    (other.1 = one.1 ∧ one.2.1.SameButScreen other.2.1) ∧ other.2.2 = one.2.2 ∧
      right.providerCalls session = left.providerCalls session := by
  have alike := (PromptState.inStep_widget same).converse (prompt_onScreen same session)
    session.console.signals
  simp only [Signal.map_id] at alike
  exact alike

/-- The calls account for what becomes of the store. -/
theorem store_runPrompt (shell : Shell σ) (session : Session σ) :
    (shell.runPrompt session).2.1.store =
      PromptState.storeAfter session.store (shell.providerCalls session) :=
  Widget.measure_converse (PromptState.widget shell.registry shell.settings)
    (fun state event => state.accounted_react shell.registry shell.settings event)
    PromptState.store_abandon (shell.prompt session) session.console.signals

/-- Shells that differ in delays and in the debounce read the same line or end with the same error.
They make the same calls, which account for what becomes of the store, and the sessions differ in
nothing but what is on the screen: the history with its scroll, the key maps and the keys that are
left are the same. -/
theorem readLine_undelayed {left right : Shell σ} (same : left.undelayed = right.undelayed)
    (session : Session σ) :
    let one := left.readLine session
    let other := right.readLine session
    other.1 = one.1 ∧ (∃ screen, other.2 = one.2.onScreen screen) ∧
      right.providerCalls session = left.providerCalls session ∧
      one.2.store = PromptState.storeAfter session.store (left.providerCalls session) := by
  obtain ⟨⟨result_eq, screen, state_eq⟩, signals_eq, calls_eq⟩ := runPrompt_undelayed same session
  simp only [readLine_eq, result_eq, state_eq, signals_eq]
  exact ⟨trivial, ⟨_, rfl⟩, calls_eq, left.store_runPrompt session⟩

/-- A shell with a command whose argument is offered after a while, where the store is the number
of times that it was. -/
def deploying (delay : Nat) : Shell Nat where
  registry := .afterCalls [{ Command.ofName "deploy" "Deploys a plan" with
    arguments := [{
      name := "plan", description := none, required := true, validator := none
      provider := some
        ⟨fun _ _ => delay, fun _ calls => (.ok [.plain "blue"], calls + 1)⟩ }] }]
  settings := .default

/-- A session in which Tab completes the plan. -/
def deployment : Session Nat where
  console := .ofKeys <|
    ("deploy ".toList.map fun letter => .plain (.char letter)) ++
      [.plain .tab, .plain .enter]
  history := .inMemory 80
  disk := .missing
  store := 0

/-- A delay beyond the debounce is seen on the screen, and nowhere else. -/
theorem readLine_deploying :
    let prompt := deploying 0
    let late := deploying 1000
    prompt.undelayed = late.undelayed ∧
      (late.readLine deployment).1 = (prompt.readLine deployment).1 ∧
      (∃ screen, (late.readLine deployment).2 = (prompt.readLine deployment).2.onScreen screen) ∧
      late.providerCalls deployment = prompt.providerCalls deployment ∧
      (prompt.readLine deployment).1 = .ok "deploy blue " ∧
      (prompt.readLine deployment).2.store = 1 ∧
      (late.readLine deployment).2.console.display.screen ≠
        (prompt.readLine deployment).2.console.display.screen := by
  have same : (deploying 0).undelayed = (deploying 1000).undelayed := rfl
  obtain ⟨result_eq, session_eq, calls_eq, -⟩ := readLine_undelayed same deployment
  refine ⟨same, result_eq, session_eq, calls_eq, ?_, ?_, ?_⟩
  · rfl
  · rfl
  · decide +kernel

end Shell

end OperatorShell
