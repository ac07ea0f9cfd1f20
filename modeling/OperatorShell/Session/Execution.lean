import OperatorShell.Command.Decision
import OperatorShell.Question.Widgets

/-!
# Running a line

The clauses of a line run from left to right.  A clause after `&&` is skipped when the
last clause that ran failed, and one after `||` when it succeeded; a skipped clause is
not even resolved.  Between two operators in a row the later counts.  Running changes
two things: the console, by what scripts print and ask, and the store.
-/

namespace OperatorShell.Session

open Command Line

variable {σ α ω : Type} {device : Device}

/-- How a clause ended well. -/
inductive Outcome where
  /-- The body of the command with this id ran through. -/
  | executed (id : String)
  /-- A help text is to be shown. -/
  | help (id text : String)
  deriving DecidableEq, Repr

/-- What is to say about a clause that was not skipped. -/
structure Report where
  /-- The clause as typed. -/
  text : String
  /-- What was handed to the body of a command, if a body ran. -/
  call : Option Invocation
  result : Except DispatchError Outcome

namespace Report

/-- Whether the clause succeeded. -/
def succeeded (report : Report) : Bool :=
  match report.result with
  | .ok _ => true
  | .error _ => false

/-- Whether the body of the command was interrupted by the operator. -/
def isInterrupted (report : Report) : Bool :=
  match report.result with
  | .error (.execution _ failure) => failure.isInterrupt
  | _ => false

end Report

/-- What running a line can change. -/
structure Scene (σ : Type) (device : Device := .sound) where
  console : Console device
  store : σ

/-- Run a script: questions and output go to the console. -/
def runScript (style : AskStyle) :
    Script σ α → Scene σ device → Except Failure α × Scene σ device
  | .done result, scene => (.ok result, scene)
  | .fail failure, scene => (.error failure, scene)
  | .load next, scene => runScript style (next scene.store) scene
  | .save store next, scene => runScript style next { scene with store := store }
  | .print text next, scene =>
      let written := scene.console.writeLine text
      runScript style (next written.fault) { scene with console := written.state }
  | .pose question next, scene =>
      let (answer, console) := question.put style scene.console
      runScript style (next answer) { scene with console := console }

/-- Run what a clause asks for. -/
def perform (style : AskStyle) (text : String)
    (decision : Except DispatchError (Decision σ)) (scene : Scene σ device) :
    Report × Scene σ device :=
  match decision with
  | .error error => (⟨text, none, .error error⟩, scene)
  | .ok (.help id help) => (⟨text, none, .ok (.help id help)⟩, scene)
  | .ok (.execute invocation script) =>
      match runScript style script scene with
      | (.ok (), scene) =>
          (⟨text, some invocation, .ok (.executed invocation.id)⟩, scene)
      | (.error failure, scene) =>
          (⟨text, some invocation, .error (.execution (usage invocation.id) failure)⟩,
            scene)

/-- Decide a clause in the current state of the store and run it. -/
def runClause (registry : Registry σ) (style : AskStyle) (line : List Char)
    (clause : Clause) (scene : Scene σ device) : Report × Scene σ device :=
  let text := String.ofList (clause.rawText line)
  perform style text (decide registry scene.store clause text) scene

/-- Whether a clause is skipped after an operator, given whether the last clause that
ran succeeded. -/
def skips : Option Connective → Option Bool → Bool
  | some .and, some false => true
  | some .or, some true => true
  | _, _ => false

/-- Run nodes from left to right, given the operator right before them and whether the
last clause that ran succeeded. -/
def runNodes (run : Clause → ω → Report × ω) :
    Option Connective → Option Bool → List Node → ω → List Report × ω
  | _, _, [], state => ([], state)
  | _, succeeded, .operator token :: rest, state =>
      runNodes run token.connective? succeeded rest state
  | pending, succeeded, .clause body :: rest, state =>
      if skips pending succeeded then runNodes run none succeeded rest state
      else
        let (report, state) := run body state
        let (reports, state) :=
          runNodes run none (some report.succeeded) rest state
        (report :: reports, state)

/-- Run a line. -/
def runLine (registry : Registry σ) (style : AskStyle) (line : String)
    (scene : Scene σ device) : List Report × Scene σ device :=
  runNodes (runClause registry style line.toList) none none
    (parse line.toList).nodes scene

/-- A script leaves the last ones of the keys that were to come. -/
theorem signals_runScript_suffix (style : AskStyle) (script : Script σ α)
    (scene : Scene σ device) :
    (runScript style script scene).2.console.signals <:+ scene.console.signals := by
  induction script generalizing scene with
  | done result => exact List.suffix_rfl
  | fail failure => exact List.suffix_rfl
  | load next ih => exact ih scene.store scene
  | save store next ih => exact ih { scene with store := store }
  | print text next ih =>
      exact ih _ { scene with console := (scene.console.writeLine text).state }
  | pose question next ih =>
      exact (ih _ _).trans (question.signals_put_suffix style scene.console)

theorem signals_perform_suffix (style : AskStyle) (text : String)
    (decision : Except DispatchError (Decision σ)) (scene : Scene σ device) :
    (perform style text decision scene).2.console.signals <:+
      scene.console.signals := by
  unfold perform
  split
  · exact List.suffix_rfl
  · exact List.suffix_rfl
  · rename_i invocation script
    have kept := signals_runScript_suffix style script scene
    split <;> rename_i ran <;> rw [ran] at kept <;> exact kept

theorem signals_runNodes_suffix (registry : Registry σ) (style : AskStyle)
    (line : List Char) (nodes : List Node) (pending : Option Connective)
    (succeeded : Option Bool) (scene : Scene σ device) :
    (runNodes (runClause registry style line) pending succeeded nodes
      scene).2.console.signals <:+ scene.console.signals := by
  induction nodes generalizing pending succeeded scene with
  | nil => exact List.suffix_rfl
  | cons node rest ih =>
      cases node with
      | operator token => exact ih ..
      | clause body =>
          unfold runNodes
          split
          · exact ih ..
          · exact (ih ..).trans (signals_perform_suffix ..)

/-- A line leaves the last ones of the keys that were to come. -/
theorem signals_runLine_suffix (registry : Registry σ) (style : AskStyle)
    (line : String) (scene : Scene σ device) :
    (runLine registry style line scene).2.console.signals <:+
      scene.console.signals :=
  signals_runNodes_suffix ..

end OperatorShell.Session
