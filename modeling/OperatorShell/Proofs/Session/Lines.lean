import OperatorShell.Proofs.Session.Mode

/-!
# Lines one after another

Lines that run one after another find the keys and the store as the ones before have left them.
What the clauses keep holds at the end, and what they add to a list adds up over their steps.
-/

namespace OperatorShell.Session

open Command Line

variable {σ ω β : Type}

/-- If clauses only ever add to a list, the list has at the end what the steps have added. -/
theorem list_runNodes (list : ω → List β) (added : Step ω → List β)
    {run : Clause → ω → Report × ω}
    (adds : ∀ step, run step.clause step.before = (step.report, step.after) →
      list step.after = list step.before ++ added step)
    (pending : Option Connective) (succeeded : Option Bool) (nodes : List Node) (state : ω) :
    list (runNodes run pending succeeded nodes state).2 =
      list state ++ (stepsOf run pending succeeded nodes state).flatMap added := by
  induction nodes generalizing pending succeeded state with
  | nil => simp [runNodes]
  | cons node rest ih =>
      cases node with
      | operator token => exact ih token.connective? succeeded state
      | clause body =>
          cases skipped : skips pending succeeded with
          | true => simpa [stepsOf_clause_of_skips, runNodes, skipped] using ih none succeeded state
          | false =>
              have first := adds ⟨body, state, (run body state).1, (run body state).2⟩ rfl
              have later := ih none (some (run body state).1.succeeded) (run body state).2
              simp [stepsOf_clause, runNodes, skipped, later, first]

variable (registry : Registry σ) (style : AskStyle)

/-- Run lines one after another. -/
def runLines (lines : List String) (scene : Scene σ) : Scene σ :=
  lines.foldl (fun scene line => (runLine registry style line scene).2) scene

/-- The steps of lines that run one after another. -/
def stepsOfLines : List String → Scene σ → List (Step (Scene σ))
  | [], _ => []
  | line :: rest, scene =>
      lineSteps registry style line scene ++
        stepsOfLines rest (runLine registry style line scene).2

variable {registry style}

theorem exists_run_of_mem_stepsOfLines {lines : List String} {scene : Scene σ}
    {step : Step (Scene σ)} (taken : step ∈ stepsOfLines registry style lines scene) :
    ∃ line : String, runClause registry style line.toList step.clause step.before =
      (step.report, step.after) := by
  induction lines generalizing scene with
  | nil => cases taken
  | cons line rest ih =>
      rcases List.mem_append.mp taken with first | later
      · exact ⟨line, run_of_mem_stepsOf _ _ _ first⟩
      · exact ih later

theorem holds_runLines (holds : Scene σ → Prop)
    (kept : ∀ (line : String) clause scene, holds scene →
      holds (runClause registry style line.toList clause scene).2)
    (lines : List String) (scene : Scene σ) (start : holds scene) :
    holds (runLines registry style lines scene) := by
  induction lines generalizing scene with
  | nil => exact start
  | cons line rest ih => exact ih _ (holds_of_runNodes holds (kept line) none none _ start).2

theorem list_runLines (list : Scene σ → List β) (added : Step (Scene σ) → List β)
    (adds : ∀ (line : String) (step : Step (Scene σ)),
      runClause registry style line.toList step.clause step.before = (step.report, step.after) →
        list step.after = list step.before ++ added step)
    (lines : List String) (scene : Scene σ) :
    list (runLines registry style lines scene) =
      list scene ++ (stepsOfLines registry style lines scene).flatMap added := by
  induction lines generalizing scene with
  | nil => simp [runLines, stepsOfLines]
  | cons line rest ih =>
      have first := list_runNodes list added (adds line) none none (parse line.toList).nodes scene
      have later := ih (runLine registry style line scene).2
      rw [stepsOfLines, List.flatMap_append, ← List.append_assoc]
      exact later.trans (congrArg (· ++ _) first)

end OperatorShell.Session
