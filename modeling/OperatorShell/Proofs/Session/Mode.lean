import OperatorShell.Proofs.Console.Mode
import OperatorShell.Proofs.Session.Steps
import OperatorShell.Proofs.Session.Turns

/-!
# What a session keeps

The command prompt reads in raw mode with a map of its own, and a picker on top of it adds
another one; the questions of commands come and go in between.  Whatever is open, taking it
away gives the mode before, so reading a line, running it and the whole loop leave the mode
of the terminal as they found it.
-/

namespace OperatorShell

open Command Session Keys Line

variable {σ : Type} {device : Device}

namespace Session.PromptState

/-- The mode without the picker on top of the line. -/
def lineMode (state : PromptState σ device) : KeyMapStack × Nat :=
  match state.completion with
  | none => state.display.mode
  | some completion => (state.display.release completion.guard).mode

/-- Between two keys the picker on top of the line is all there is to take off, and a line that is
done has none. -/
abbrev KeepsMode (mode : KeyMapStack × Nat)
    (reaction : Reaction (PromptState σ device) String) : Prop :=
  reaction.Meets (·.lineMode = mode) fun _ last => last.display.mode = mode

/-- What was tried leaves at most a picker on top of the line, and none if it failed. -/
structure Restores (mode : KeyMapStack × Nat) (attempt : Attempt (PromptState σ device)) :
    Prop where
  went : attempt.fault = none → attempt.state.lineMode = mode
  failed : ∀ fault, attempt.fault = some fault → attempt.state.display.mode = mode

/-- No picker is open, and the mode is the given one. -/
structure AtLine (mode : KeyMapStack × Nat) (state : PromptState σ device) : Prop where
  closed : state.completion = none
  mode_eq : state.display.mode = mode

section AtLine

variable {mode : KeyMapStack × Nat} {state : PromptState σ device}
  {attempt : Attempt (PromptState σ device)}

theorem Restores.wait (restores : Restores mode attempt) : KeepsMode mode attempt.wait := by
  unfold Attempt.wait Attempt.react
  cases outcome : attempt.fault with
  | none => exact restores.went outcome
  | some fault => exact restores.failed fault outcome

theorem AtLine.lineMode_eq (line : state.AtLine mode) : state.lineMode = mode := by
  rw [lineMode, line.closed]
  exact line.mode_eq

/-- What stays at the line may fail or not. -/
theorem AtLine.restores (line : attempt.state.AtLine mode) : Restores mode attempt :=
  ⟨fun _ => line.lineMode_eq, fun _ _ => line.mode_eq⟩

theorem AtLine.restores_andThen {next : PromptState σ device → Attempt (PromptState σ device)}
    (line : attempt.state.AtLine mode) (later : Restores mode (next attempt.state)) :
    Restores mode (attempt.andThen next) := by
  unfold Attempt.andThen
  split
  · exact later
  · exact line.restores

theorem AtLine.keepsMode_react
    {goOn : PromptState σ device → Reaction (PromptState σ device) String}
    (line : attempt.state.AtLine mode) (later : KeepsMode mode (goOn attempt.state)) :
    KeepsMode mode (attempt.react goOn) :=
  Attempt.meets_react (fun _ => line.mode_eq) later

theorem AtLine.draw (line : state.AtLine mode) (drawing : Edit.Editor → Screen.Drawing) :
    (state.draw drawing).state.AtLine mode :=
  ⟨line.closed, (state.display.mode_draw _).trans line.mode_eq⟩

theorem AtLine.drawIf (line : state.AtLine mode) (needed : Bool)
    (drawing : Edit.Editor → Screen.Drawing) :
    (state.drawIf needed drawing).state.AtLine mode := by
  unfold PromptState.drawIf
  split
  · exact line.draw drawing
  · exact line

theorem AtLine.edit (line : state.AtLine mode) (change : Edit.Buffer → Edit.Buffer) :
    (state.edit change).AtLine mode := ⟨line.closed, line.mode_eq⟩

theorem AtLine.withStore (line : state.AtLine mode) (store : σ) :
    ({ state with store := store }).AtLine mode := ⟨line.closed, line.mode_eq⟩

theorem AtLine.refresh (line : state.AtLine mode) : state.refresh.state.AtLine mode :=
  (line.edit _).draw _

theorem AtLine.keepsMode_refresh (line : state.AtLine mode) :
    KeepsMode mode state.refresh.wait :=
  line.refresh.restores.wait

theorem AtLine.keepsMode_finish (line : state.AtLine mode) (result : Except ReadError String) :
    KeepsMode mode (state.finish result) := by
  have finished : ({ state with editor := state.editor.finish }).AtLine mode :=
    ⟨line.closed, line.mode_eq⟩
  have drawn := finished.draw Edit.Editor.render
  exact drawn.keepsMode_react drawn.mode_eq

theorem AtLine.showOlder (line : state.AtLine mode) : state.showOlder.AtLine mode := by
  unfold PromptState.showOlder
  dsimp only
  split <;> exact ⟨line.closed, line.mode_eq⟩

theorem AtLine.showNewer (line : state.AtLine mode) : state.showNewer.AtLine mode := by
  unfold PromptState.showNewer
  split
  · exact line
  · exact ⟨line.closed, line.mode_eq⟩

/-- The guard of a picker takes away the map that the picker came with. -/
theorem AtLine.restores_openPicker (line : state.AtLine mode) (pageSize : Nat)
    (before : List Char) (candidates : List Candidate) :
    Restores mode (state.openPicker pageSize before candidates) := by
  have released : ((Picking.start (.ofCandidates (sortByValue candidates) pageSize true)
        (state.display.enter .picker).2).state.display.release
      (state.display.enter .picker).1).mode = mode :=
    (Display.mode_release .picker (Picking.mode_start _ _)).trans line.mode_eq
  unfold openPicker
  dsimp only
  split
  · exact ⟨fun _ => released, nofun⟩
  · exact ⟨nofun, fun _ _ => released⟩

theorem AtLine.restores_useCandidates (line : state.AtLine mode) (pageSize : Nat)
    (before : List Char) (candidates : List Candidate) :
    Restores mode (state.useCandidates pageSize before candidates) := by
  match candidates with
  | [] => exact line.refresh.restores
  | [candidate] => exact (line.edit _).refresh.restores
  | _ :: _ :: _ => exact line.restores_openPicker ..

theorem AtLine.restores_useAnswer (line : state.AtLine mode) (pageSize : Nat)
    (before : List Char) (answer : Except ProviderError (List Candidate)) :
    Restores mode (state.useAnswer pageSize before answer) := by
  cases answer with
  | error error =>
      have told := line.draw (·.showError error.message)
      exact told.restores_andThen told.refresh.restores
  | ok candidates => exact line.restores_useCandidates ..

theorem AtLine.restores_complete (line : state.AtLine mode) (registry : Registry σ)
    (settings : Settings) : Restores mode (state.complete registry settings) := by
  unfold complete
  dsimp only
  generalize isBusy settings _ _ _ = busy, Plan.run _ _ _ = answered
  have waiting := line.drawIf busy Edit.Editor.renderBusy
  apply waiting.restores_andThen
  have waited := (waiting.withStore answered.2).drawIf busy Edit.Editor.render
  exact waited.restores_andThen (waited.restores_useAnswer ..)

theorem AtLine.keepsMode_act (line : state.AtLine mode) (registry : Registry σ)
    (settings : Settings) (action : Action) :
    KeepsMode mode (state.act registry settings action) := by
  have applied : ({ state with editor := state.editor.apply action }).AtLine mode :=
    ⟨line.closed, line.mode_eq⟩
  cases action with
  | interrupt => exact line.keepsMode_finish _
  | submit =>
      dsimp only [act]
      split
      · exact (line.draw _).restores.wait
      · exact line.keepsMode_finish _
  | endOfInput =>
      dsimp only [act]
      split
      · exact line.keepsMode_finish _
      · exact (line.edit _).keepsMode_refresh
  | historyPrevious => exact line.showOlder.keepsMode_refresh
  | historyNext => exact line.showNewer.keepsMode_refresh
  | complete => exact (line.restores_complete registry settings).wait
  | insert character =>
      have fresh : ({ state with history := state.history.resetScroll }).AtLine mode :=
        ⟨line.closed, line.mode_eq⟩
      exact (fresh.edit _).keepsMode_refresh
  | _ => exact applied.keepsMode_refresh

theorem AtLine.keepsMode_reactLine (line : state.AtLine mode) (registry : Registry σ)
    (settings : Settings) (event : KeyEvent) :
    KeepsMode mode (state.reactLine registry settings event) := by
  unfold reactLine
  split
  · exact line.keepsMode_act registry settings _
  · exact line.lineMode_eq

/-- Closing the picker brings back the line. -/
theorem atLine_closePicker {completion : OpenPicker} (opened : state.completion = some completion)
    (same : state.lineMode = mode) {picking : Picking device}
    (kept : picking.display.mode = state.display.mode) :
    (state.closePicker completion picking).AtLine mode := by
  rw [lineMode, opened] at same
  constructor
  · rfl
  · rw [← same]
    exact Display.mode_release_congr kept completion.guard

theorem AtLine.keepsMode_resume (line : state.AtLine mode) (registry : Registry σ)
    (settings : Settings) (before : List Char) (result : Except ReadError PickerOutcome) :
    KeepsMode mode (state.resume registry settings before result) := by
  unfold resume
  split
  · exact line.mode_eq
  · exact (line.edit _).keepsMode_refresh
  · exact line.keepsMode_refresh
  · exact line.refresh.keepsMode_react (line.refresh.keepsMode_reactLine registry settings _)

/-- Between two keys the picker can be taken off, and in the end it is. -/
theorem contract_widget (registry : Registry σ) (settings : Settings)
    (mode : KeyMapStack × Nat) :
    (widget registry settings : Widget (PromptState σ device) String).Contract
      (·.lineMode = mode) (fun _ last => last.display.mode = mode) := by
  constructor
  · intro state event same
    cases opened : state.completion with
    | none =>
        have line : state.AtLine mode := by
          rw [lineMode, opened] at same
          exact ⟨opened, same⟩
        simpa only [widget, react, opened] using line.keepsMode_reactLine registry settings event
    | some completion =>
        have kept := (state.picking completion).keeps_react event
        simp only [widget, react, opened]
        cases reacted : Picking.react (state.picking completion) event with
        | wait picking =>
            rw [reacted] at kept
            rw [lineMode, opened] at same
            rw [← same]
            exact Display.mode_release_congr kept completion.guard
        | finish result picking =>
            -- The key may act on the line below the picker, which is back by then.
            rw [reacted] at kept
            exact (atLine_closePicker opened same kept).keepsMode_resume ..
  · intro state error same
    change (abandon state).state.display.mode = mode
    cases opened : state.completion with
    | none => simpa only [abandon, Attempt.done, lineMode, opened] using same
    | some completion =>
        have cleared := (state.picking completion).mode_clear
        simpa only [abandon, Attempt.map, opened] using
          (atLine_closePicker opened same cleared).mode_eq

end AtLine

/-- The first line leaves the mode as it is. -/
theorem atLine_start (settings : Settings) (history : History) (store : σ)
    (display : Display device) :
    (start settings history store display).state.AtLine display.mode :=
  ⟨rfl, display.mode_draw _⟩

end Session.PromptState

/-- Reading a line leaves the mode it found, with and without a line. -/
theorem Shell.sameMode_readLine (shell : Shell σ) (session : Session σ device) :
    session.console.SameMode (shell.readLine session).2.console := by
  unfold Shell.readLine
  dsimp only [Attempt.into, Attempt.map]
  cases entered : session.console.enterRaw.fault with
  | some fault => exact Display.mode_enterRaw_of_fault entered
  | none =>
      apply Display.mode_leaveRaw entered
      apply Display.mode_release .commandPrompt
      have opened := PromptState.atLine_start shell.settings session.history session.store
        (session.console.enterRaw.state.display.enter KeyMap.commandPrompt).2
      unfold Widget.run Attempt.into
      split
      · exact (PromptState.contract_widget ..).converse opened.lineMode_eq _
      · exact opened.mode_eq

namespace Session

/-- A script only prints and asks. -/
theorem sameMode_runScript {α : Type} (style : AskStyle) (script : Script σ α)
    (scene : Scene σ device) :
    scene.console.SameMode (runScript style script scene).2.console := by
  induction script generalizing scene with
  | done result => rfl
  | fail failure => rfl
  | load next ih => exact ih scene.store scene
  | save store next ih => exact ih { scene with store := store }
  | print text next ih =>
      have written := scene.console.sameMode_writeLine text
      exact written.trans (ih _ { scene with console := (scene.console.writeLine text).state })
  | pose question next ih =>
      have asked := question.sameMode_put style scene.console
      exact asked.trans (ih _ { scene with console := (question.put style scene.console).2 })

theorem sameMode_runClause (registry : Registry σ) (style : AskStyle) (line : List Char)
    (clause : Clause) (scene : Scene σ device) :
    scene.console.SameMode (runClause registry style line clause scene).2.console := by
  unfold runClause perform
  dsimp only
  split
  · rfl
  · rfl
  · rename_i script _
    have kept := sameMode_runScript style script scene
    split <;> rename_i ran <;> rw [ran] at kept <;> exact kept

section Steps

variable {ω : Type} {run : Clause → ω → Report × ω}

/-- What every clause keeps holds after every step of a line and at its end. -/
theorem holds_of_runNodes (holds : ω → Prop)
    (kept : ∀ clause state, holds state → holds (run clause state).2)
    (pending : Option Connective) (succeeded : Option Bool) (nodes : List Node) {state : ω}
    (start : holds state) :
    (∀ step ∈ stepsOf run pending succeeded nodes state, holds step.after) ∧
      holds (runNodes run pending succeeded nodes state).2 := by
  induction nodes generalizing pending succeeded state with
  | nil => exact ⟨by simp, start⟩
  | cons node rest ih =>
      cases node with
      | operator token => exact ih token.connective? succeeded start
      | clause body =>
          cases skipped : skips pending succeeded with
          | true => simpa [stepsOf_clause_of_skips, runNodes, skipped] using ih none succeeded start
          | false =>
              have ran := kept body state start
              have later := ih none (some (run body state).1.succeeded) ran
              simpa [stepsOf_clause, runNodes, skipped, ran] using later

end Steps

/-- Every command of a line leaves the mode it found, and so does the line. -/
theorem sameMode_runLine (registry : Registry σ) (style : AskStyle) (line : String)
    (scene : Scene σ device) :
    (∀ step ∈ lineSteps registry style line scene,
        scene.console.SameMode step.after.console) ∧
      scene.console.SameMode (runLine registry style line scene).2.console := by
  apply holds_of_runNodes fun later : Scene σ device => scene.console.SameMode later.console
  · intro clause later same
    exact same.trans (sameMode_runClause registry style line.toList clause later)
  · rfl

end Session

namespace Shell

theorem sameMode_announce (reports : List Report) (console : Console device) :
    console.SameMode (announce reports console).2 := by
  induction reports generalizing console with
  | nil => rfl
  | cons report rest ih =>
      unfold announce
      split
      · rfl
      · split
        · have written := console.sameMode_writeLine
          exact Attempt.holds_into (written _) ((written _).trans (ih _))
        · exact ih console

theorem sameMode_runOnce (shell : Shell σ) (line : String) (session : Session σ device) :
    session.console.SameMode (shell.runOnce line session).2.console := by
  have ran := (sameMode_runLine shell.registry shell.settings.askStyle line
    ⟨session.console, session.store⟩).2
  exact ran.trans (sameMode_announce _ _)

end Shell

/-- Whatever ends it, a widget leaves the key maps and the depth of raw mode that it found: each
question, the picker, and the command prompt.  So do all steps of the loop of a shell: at the end,
after every line that was read or run, and after every command on such a line.  The terminal may
refuse raw mode, and it may refuse any drawing at any place. -/
theorem Shell.mode_restored (shell : Shell σ) (device : Device) :
    (∀ (prompt : Prompt) (console : Console device),
      console.SameMode (prompt.read console).2) ∧
    (∀ (question : String) (default : Bool) (console : Console device),
      console.SameMode (Confirmation.read question default console).2) ∧
    (∀ (header : String) (candidates : List Candidate) (pageSize : Nat)
        (console : Console device),
      console.SameMode (ChoiceList.read header candidates pageSize console).2) ∧
    (∀ (picker : Picker) (console : Console device),
      console.SameMode (picker.pick console).2.2) ∧
    (∀ session : Session σ device,
      session.console.SameMode (shell.readLine session).2.console) ∧
    (∀ (line : String) (session : Session σ device),
      session.console.SameMode (shell.runOnce line session).2.console) ∧
    ∀ session : Session σ device, ∃ turns,
      shell.Runs session turns (shell.run session).1 (shell.run session).2 ∧
      session.console.SameMode (shell.run session).2.console ∧
      ∀ turn ∈ turns,
        session.console.SameMode turn.read.console ∧
        session.console.SameMode turn.after.console ∧
        ∀ step ∈ lineSteps shell.registry shell.settings.askStyle turn.line
            ⟨turn.read.console, turn.read.store⟩,
          session.console.SameMode step.after.console := by
  refine ⟨Prompt.sameMode_read, Confirmation.sameMode_read, ChoiceList.sameMode_read,
    Picker.sameMode_pick, shell.sameMode_readLine, shell.sameMode_runOnce, ?_⟩
  intro session
  obtain ⟨turns, runs⟩ := shell.exists_runs session
  have kept := runs.holds (fun later : Session σ device => session.console.SameMode later.console)
    (fun later same => Console.SameMode.trans same (shell.sameMode_readLine later))
    (fun _ _ same => same)
    (fun line later same => Console.SameMode.trans same (shell.sameMode_runOnce line later)) rfl
  refine ⟨turns, runs, kept.2, ?_⟩
  intro turn taken
  obtain ⟨afterRead, afterRun⟩ := kept.1 turn taken
  refine ⟨afterRead, afterRun, ?_⟩
  intro step member
  have stepped := (sameMode_runLine shell.registry shell.settings.askStyle turn.line
    ⟨turn.read.console, turn.read.store⟩).1 step member
  exact afterRead.trans stepped

/-- On a terminal that takes nothing a prompt ends with the fault before it reads a key, and raw mode
is left again. -/
example :
    let device : Device := ⟨fun _ _ _ => some ⟨0, "hung up"⟩, fun _ _ => none⟩
    let asked := (Prompt.ofHeader "Name: ").read (.ofKeys [.plain .enter] : Console device)
    asked.1 = .error (.fault (.output "hung up")) ∧ asked.2.keysLeft = 1 ∧
      asked.2.display.keymaps = .empty ∧ asked.2.display.rawDepth = 0 :=
  ⟨rfl, rfl, rfl, rfl⟩

end OperatorShell
