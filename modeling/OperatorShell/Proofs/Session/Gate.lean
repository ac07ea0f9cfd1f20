import OperatorShell.Proofs.Command.Registration
import OperatorShell.Proofs.Session.Admission
import OperatorShell.Proofs.Session.Steps

/-!
# The gate in front of a body

On every step of a line the body of a command is called just when the clause is
admitted, once, and with what the tokens say.  A step without a call leaves the console
and the store as they were, and its report says which condition the clause failed.
-/

namespace OperatorShell

open Line Command

namespace Session

variable {σ : Type} {registry : Registry σ} {clause : Clause}

/-- A call is one run of the script, and how the script ended is the result. -/
theorem perform_execute (style : AskStyle) (text : String) (invocation : Invocation)
    (script : Script σ Unit) (scene : Scene σ) :
    perform style text (.ok (.execute invocation script)) scene =
      (⟨text, some invocation,
        ((runScript style script scene).1.map fun _ => .executed invocation.id).mapError
          (.execution (usage invocation.id))⟩,
        (runScript style script scene).2) := by
  rw [perform]
  rcases runScript style script scene with ⟨result, after⟩
  cases result <;> rfl

/-- What is promised of a step of a line. -/
structure Gated (registry : Registry σ) (style : AskStyle) (line : List Char)
    (step : Step (Scene σ)) : Prop where
  text_eq : step.report.text = String.ofList (step.clause.rawText line)
  /-- The body is called just when the clause is admitted, with what the tokens say. -/
  call_iff : ∀ invocation, step.report.call = some invocation ↔
    ∃ resolution body,
      Admitted registry step.before.store step.clause resolution body ∧
        invocation = resolution.invocation step.clause step.report.text
  /-- It is called once: the step is a single run of its script. -/
  called_once : ∀ resolution body,
    Admitted registry step.before.store step.clause resolution body →
      let ran := runScript style
        (body (resolution.invocation step.clause step.report.text)) step.before
      step.report.result = (ran.1.map fun _ => Outcome.executed resolution.id).mapError
          (.execution (usage resolution.id)) ∧
        step.after = ran.2
  /-- Without a call the first condition that fails decides the result. -/
  withheld_iff : ∀ result, step.report.call = none ∧ step.report.result = result ↔
    Withheld registry step.before.store step.clause result
  unchanged : step.report.call = none → step.after = step.before

section Runs

variable {scene : Scene σ} (style : AskStyle) (line : List Char)

theorem runClause_of_withheld {result : Except DispatchError Outcome}
    (withheld : Withheld registry scene.store clause result) :
    runClause registry style line clause scene =
      (⟨String.ofList (clause.rawText line), none, result⟩, scene) :=
  perform_of_withheld withheld style _

theorem runClause_of_admitted {resolution : Resolution σ}
    {body : Invocation → Script σ Unit}
    (admitted : Admitted registry scene.store clause resolution body) :
    let text := String.ofList (clause.rawText line)
    let invocation := resolution.invocation clause text
    let ran := runScript style (body invocation) scene
    runClause registry style line clause scene =
      (⟨text, some invocation, (ran.1.map fun _ => .executed resolution.id).mapError
        (.execution (usage resolution.id))⟩, ran.2) := by
  intro text invocation ran
  rw [runClause, decide_of_admitted admitted]
  exact perform_execute ..

end Runs

/-- Every run of a clause is gated. -/
theorem gated_of_runClause {registry : Registry σ} {style : AskStyle} {line : List Char}
    {step : Step (Scene σ)}
    (ran : runClause registry style line step.clause step.before =
      (step.report, step.after)) : Gated registry style line step := by
  obtain ⟨clause, before, report, after⟩ := step
  dsimp only at ran
  have decided := withheld_or_admitted registry before.store clause
  have withheld_run {result : Except DispatchError Outcome}
      (withheld : Withheld registry before.store clause result) :=
    Prod.mk.inj (ran.symm.trans (runClause_of_withheld style line withheld))
  have admitted_run {resolution : Resolution σ} {body : Invocation → Script σ Unit}
      (admitted : Admitted registry before.store clause resolution body) :=
    Prod.mk.inj (ran.symm.trans (runClause_of_admitted style line admitted))
  constructor
  case text_eq =>
      rcases decided with ⟨result, withheld⟩ | ⟨resolution, body, admitted⟩
      · obtain ⟨rfl, -⟩ := withheld_run withheld
        rfl
      · obtain ⟨rfl, -⟩ := admitted_run admitted
        rfl
  case call_iff =>
      intro invocation
      constructor
      · intro called
        rcases decided with ⟨result, withheld⟩ | ⟨resolution, body, admitted⟩
        · obtain ⟨rfl, -⟩ := withheld_run withheld
          cases called
        · obtain ⟨rfl, -⟩ := admitted_run admitted
          exact ⟨resolution, body, admitted, (Option.some.inj called).symm⟩
      · rintro ⟨resolution, body, admitted, rfl⟩
        obtain ⟨rfl, -⟩ := admitted_run admitted
        rfl
  case called_once =>
      intro resolution body admitted
      obtain ⟨rfl, rfl⟩ := admitted_run admitted
      exact ⟨rfl, rfl⟩
  case withheld_iff =>
      intro result
      constructor
      · rintro ⟨absent, rfl⟩
        rcases decided with ⟨other, withheld⟩ | ⟨resolution, body, admitted⟩
        · obtain ⟨rfl, -⟩ := withheld_run withheld
          exact withheld
        · obtain ⟨rfl, -⟩ := admitted_run admitted
          cases absent
      · intro withheld
        obtain ⟨rfl, -⟩ := withheld_run withheld
        exact ⟨rfl, rfl⟩
  case unchanged =>
      intro absent
      rcases decided with ⟨result, withheld⟩ | ⟨resolution, body, admitted⟩
      · obtain ⟨-, rfl⟩ := withheld_run withheld
        rfl
      · obtain ⟨rfl, -⟩ := admitted_run admitted
        cases absent

/-- The body of a command is called on a step of a line just when the clause is admitted,
once; and a clause that is not admitted is reported with the first condition it fails. -/
theorem runLine_gated (registry : Registry σ) (style : AskStyle) (line : String)
    (scene : Scene σ) :
    (runLine registry style line scene).1 =
        (lineSteps registry style line scene).map Step.report ∧
      ∀ step ∈ lineSteps registry style line scene,
        Gated registry style line.toList step := by
  refine ⟨(map_report_stepsOf ..).symm, ?_⟩
  intro step member
  exact gated_of_runClause (run_of_mem_stepsOf _ _ _ member)

/-- A shell with one command, which needs a file. -/
def copying : Registry Unit :=
  .afterCalls [{
    Command.ofName "copy" "Copies a file" with
    arguments := [⟨"file", none, true, none, none⟩]
    body := some fun _ => .done () }]

/-- Without its file the command is withheld, and with it the command is called. -/
theorem gated_copy :
    Withheld copying () ⟨[⟨0, ['c', 'o', 'p', 'y'], .word⟩]⟩
        (.error (.missingArguments "copy" ["file"])) ∧
      ∃ resolution body, Admitted copying ()
        ⟨[⟨8, ['c', 'o', 'p', 'y'], .word⟩, ⟨13, ['a'], .word⟩]⟩ resolution body := by
  let scene : Scene Unit := ⟨.ofKeys [], ()⟩
  have gated := (runLine_gated copying ⟨10, '*'⟩ "copy || copy a" scene).2
  have steps : lineSteps copying ⟨10, '*'⟩ "copy || copy a" scene =
      [⟨⟨[⟨0, ['c', 'o', 'p', 'y'], .word⟩]⟩, scene,
          ⟨"copy", none, .error (.missingArguments "copy" ["file"])⟩, scene⟩,
        ⟨⟨[⟨8, ['c', 'o', 'p', 'y'], .word⟩, ⟨13, ['a'], .word⟩]⟩, scene,
          ⟨"copy a", some ⟨"copy", ["a"], .empty, "copy a"⟩, .ok (.executed "copy")⟩,
          scene⟩] := by
    rfl
  rw [steps] at gated
  constructor
  · have first := gated _ List.mem_cons_self
    exact (first.withheld_iff _).mp ⟨rfl, rfl⟩
  · have second := gated _ (List.mem_cons_of_mem _ List.mem_cons_self)
    obtain ⟨resolution, body, admitted, -⟩ := (second.call_iff _).mp rfl
    exact ⟨resolution, body, admitted⟩

end Session

end OperatorShell
