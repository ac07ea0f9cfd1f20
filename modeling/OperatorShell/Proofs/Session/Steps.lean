import OperatorShell.Proofs.Line.Nodes
import OperatorShell.Session.Basic

/-!
# The steps of a line

Running a line takes one step for each clause that is not skipped.  The steps are read
off the run itself: the same loop runs over clauses that also note what they found and
what they left.  Noting changes neither the reports nor the final state, so a property
of all steps is a property of everything that a line does.
-/

namespace OperatorShell

open Line Command

variable {σ ω : Type} {device : Device}

namespace Session

/-- One clause that was run. -/
structure Step (ω : Type) where
  clause : Clause
  before : ω
  report : Report
  after : ω

/-- Run a clause and note the step behind the earlier ones. -/
def noting (run : Clause → ω → Report × ω) (clause : Clause)
    (state : ω × List (Step ω)) : Report × ω × List (Step ω) :=
  let (report, after) := run clause state.1
  (report, after, state.2 ++ [⟨clause, state.1, report, after⟩])

/-- The steps of running nodes. -/
def stepsOf (run : Clause → ω → Report × ω) (pending : Option Connective)
    (succeeded : Option Bool) (nodes : List Node) (state : ω) : List (Step ω) :=
  (runNodes (noting run) pending succeeded nodes (state, [])).2.2

section Noting

variable (run : Clause → ω → Report × ω) (pending : Option Connective)
  (succeeded : Option Bool)

/-- Noting the steps changes nothing else. -/
theorem runNodes_noting (nodes : List Node) (state : ω) (noted : List (Step ω)) :
    runNodes (noting run) pending succeeded nodes (state, noted) =
      ((runNodes run pending succeeded nodes state).1,
        (runNodes run pending succeeded nodes state).2,
        noted ++ stepsOf run pending succeeded nodes state) := by
  induction nodes generalizing pending succeeded state noted with
  | nil => simp [runNodes, stepsOf]
  | cons node rest ih =>
      cases node with
      | operator token => exact ih token.connective? succeeded state noted
      | clause body =>
          simp only [stepsOf, runNodes]
          split
          · exact ih none succeeded state noted
          · simp only [noting, ih, List.nil_append, List.append_assoc]

@[simp] theorem stepsOf_nil (state : ω) :
    stepsOf run pending succeeded [] state = [] := rfl

@[simp] theorem stepsOf_operator (token : Token) (rest : List Node) (state : ω) :
    stepsOf run pending succeeded (.operator token :: rest) state =
      stepsOf run token.connective? succeeded rest state := rfl

/-- A skipped clause takes no step. -/
theorem stepsOf_clause_of_skips {body : Clause} {rest : List Node} {state : ω}
    (skipped : skips pending succeeded = true) :
    stepsOf run pending succeeded (.clause body :: rest) state =
      stepsOf run none succeeded rest state := by
  simp [stepsOf, runNodes, skipped]

/-- Any other clause takes one step, and its status decides how it goes on. -/
theorem stepsOf_clause {body : Clause} {rest : List Node} {state : ω}
    (runs : skips pending succeeded = false) :
    stepsOf run pending succeeded (.clause body :: rest) state =
      ⟨body, state, (run body state).1, (run body state).2⟩ ::
        stepsOf run none (some (run body state).1.succeeded) rest
          (run body state).2 := by
  rw [stepsOf]
  simp only [runNodes, runs, Bool.false_eq_true, if_false, noting]
  rw [runNodes_noting]
  rfl

/-- The reports of a run are those of its steps. -/
theorem map_report_stepsOf (nodes : List Node) (state : ω) :
    (stepsOf run pending succeeded nodes state).map Step.report =
      (runNodes run pending succeeded nodes state).1 := by
  induction nodes generalizing pending succeeded state with
  | nil => rfl
  | cons node rest ih =>
      cases node with
      | operator token => exact ih token.connective? succeeded state
      | clause body =>
          cases skipped : skips pending succeeded with
          | true => simp [stepsOf_clause_of_skips, runNodes, skipped, ih]
          | false => simp [stepsOf_clause, runNodes, skipped, ih]

/-- A step is a run of a clause. -/
theorem run_of_mem_stepsOf {nodes : List Node} {state : ω} {step : Step ω}
    (member : step ∈ stepsOf run pending succeeded nodes state) :
    run step.clause step.before = (step.report, step.after) := by
  induction nodes generalizing pending succeeded state with
  | nil => cases member
  | cons node rest ih =>
      cases node with
      | operator token => exact ih token.connective? succeeded member
      | clause body =>
          cases skipped : skips pending succeeded with
          | true =>
              rw [stepsOf_clause_of_skips run _ _ skipped] at member
              exact ih none succeeded member
          | false =>
              rw [stepsOf_clause run _ _ skipped] at member
              rcases List.mem_cons.mp member with rfl | later
              · rfl
              · exact ih none _ later

/-- A step divides the nodes into those before its clause, which account for the earlier
steps, and those behind it, which account for the later ones. -/
theorem stepsOf_eq_append_cons {nodes : List Node} {state : ω}
    {earlier later : List (Step ω)} {step : Step ω}
    (taken : stepsOf run pending succeeded nodes state = earlier ++ step :: later) :
    ∃ front back, nodes = front ++ .clause step.clause :: back ∧
      earlier = stepsOf run pending succeeded front state ∧
      later = stepsOf run none (some step.report.succeeded) back step.after := by
  induction nodes generalizing pending succeeded state earlier with
  | nil => simp at taken
  | cons node rest ih =>
      cases node with
      | operator token =>
          obtain ⟨front, back, split, before, behind⟩ :=
            ih token.connective? succeeded taken
          exact ⟨.operator token :: front, back, by rw [split]; rfl, before, behind⟩
      | clause body =>
          cases skipped : skips pending succeeded with
          | true =>
              rw [stepsOf_clause_of_skips run _ _ skipped] at taken
              obtain ⟨front, back, split, before, behind⟩ := ih none succeeded taken
              refine ⟨.clause body :: front, back, by rw [split]; rfl, ?_, behind⟩
              rw [stepsOf_clause_of_skips run _ _ skipped]
              exact before
          | false =>
              rw [stepsOf_clause run _ _ skipped] at taken
              cases earlier with
              | nil =>
                  obtain ⟨rfl, rfl⟩ := List.cons.inj taken
                  exact ⟨[], rest, rfl, rfl, rfl⟩
              | cons first earlier =>
                  obtain ⟨rfl, others⟩ := List.cons.inj taken
                  obtain ⟨front, back, split, before, behind⟩ := ih none _ others
                  refine ⟨.clause body :: front, back, by rw [split]; rfl, ?_, behind⟩
                  rw [stepsOf_clause run _ _ skipped, before]

end Noting

/-- The steps of a line. -/
def lineSteps (registry : Registry σ) (style : AskStyle) (line : String)
    (scene : Scene σ device) : List (Step (Scene σ device)) :=
  stepsOf (runClause registry style line.toList) none none (parse line.toList).nodes
    scene

end Session

end OperatorShell
