import OperatorShell.Proofs.Command.Registration
import OperatorShell.Proofs.Session.ShortCircuit
import OperatorShell.Proofs.Session.Steps

/-!
# Interrupted lines

To the operators of a line an interrupted command is a failed one.  The clauses joined
to it by `&&` are skipped, and the next clause directly behind an `||` runs; where there
is none, the line is over.  Whatever runs later, the line as a whole ends interrupted.
-/

namespace OperatorShell

open Line Session Command

variable {σ ω : Type}

namespace Line

/-- The first clause that stands directly behind an `||`. -/
def Node.fallback? : List Node → Option Clause
  | [] => none
  | .operator token :: .clause body :: rest =>
      if token.connective? = some .or then some body else fallback? rest
  | _ :: rest => fallback? rest

end Line

namespace Session

/-- After a failed clause the next step is the next clause directly behind an `||`. -/
theorem head?_stepsOf_of_failed (run : Clause → ω → Report × ω) (body : Clause)
    (nodes : List Node) (proper : ∀ node ∈ nodes, node.IsProper)
    (alternating : Node.Alternating (.clause body :: nodes)) (state : ω) :
    (stepsOf run none (some false) nodes state).head?.map Step.clause =
      Node.fallback? nodes := by
  match nodes with
  | [] => rfl
  | .clause other :: rest =>
      have apart := (List.isChain_cons_cons.mp alternating).1
      simp [Node.isOperator] at apart
  | [.operator token] => rfl
  | .operator token :: .operator later :: rest =>
      have shorter := (List.isChain_cons_cons.mp alternating).2
      have ih := head?_stepsOf_of_failed run body (.operator later :: rest)
        (fun node member => proper node (List.mem_cons_of_mem _ member))
        (.cons_cons (.inr rfl) (List.isChain_cons_cons.mp shorter).2) state
      simpa [Node.fallback?] using ih
  | .operator token :: .clause other :: rest =>
      obtain ⟨connective, known⟩ :=
        Node.exists_connective (proper (.operator token) (by simp))
      have shorter := (List.isChain_cons_cons.mp alternating).2
      simp only [stepsOf_operator, known, Node.fallback?]
      cases connective with
      | or =>
          rw [stepsOf_clause run _ _ rfl]
          rfl
      | and =>
          rw [stepsOf_clause_of_skips run _ _ rfl]
          simpa using head?_stepsOf_of_failed run other rest
            (fun node member => proper node (by simp [member]))
            (List.isChain_cons_cons.mp shorter).2 state

/-- An interrupted clause did not succeed. -/
theorem succeeded_of_isInterrupted {report : Report}
    (interrupted : report.isInterrupted = true) : report.succeeded = false := by
  rw [Report.isInterrupted] at interrupted
  rw [Report.succeeded]
  split at interrupted
  · rename_i failed
    rw [failed]
  · cases interrupted

end Session

namespace Shell

/-- Once a command has been interrupted, the next command to be called on the line is
that of the next clause directly behind an `||`, if there is one, and none before it;
and the line ends interrupted. -/
theorem runOnce_of_interrupted (shell : Shell σ) (line : String) (session : Session σ)
    (earlier later : List (Step (Scene σ))) (step : Step (Scene σ))
    (taken : lineSteps shell.registry shell.settings.askStyle line
      ⟨session.console, session.store⟩ = earlier ++ step :: later)
    (interrupted : step.report.isInterrupted = true) :
    (shell.runOnce line session).1 = .error .interrupted ∧
      ∃ front back, (parse line.toList).nodes = front ++ .clause step.clause :: back ∧
        earlier = stepsOf
          (runClause shell.registry shell.settings.askStyle line.toList) none none front
          ⟨session.console, session.store⟩ ∧
        later = stepsOf
          (runClause shell.registry shell.settings.askStyle line.toList) none (some false)
          back step.after ∧
        later.head?.map Step.clause = Node.fallback? back := by
  have failed := succeeded_of_isInterrupted interrupted
  obtain ⟨front, back, split, before, behind⟩ := stepsOf_eq_append_cons _ _ _ taken
  rw [failed] at behind
  constructor
  · have reports := map_report_stepsOf
      (runClause shell.registry shell.settings.askStyle line.toList) none none
      (parse line.toList).nodes ⟨session.console, session.store⟩
    have among : step.report ∈ (runLine shell.registry shell.settings.askStyle line
        ⟨session.console, session.store⟩).1 := by
      rw [runLine, ← reports]
      apply List.mem_map_of_mem
      show step ∈ lineSteps _ _ _ _
      simp [taken]
    have some_interrupted : (runLine shell.registry shell.settings.askStyle line
        ⟨session.console, session.store⟩).1.any Report.isInterrupted = true :=
      List.any_eq_true.mpr ⟨step.report, among, interrupted⟩
    simp only [runOnce, dispatch, announce_fst, some_interrupted]
    rfl
  · refine ⟨front, back, split, before, behind, ?_⟩
    have proper := isProper_nodes line.toList
    have alternating := alternating_nodes line.toList
    rw [split] at proper alternating
    rw [behind]
    exact head?_stepsOf_of_failed _ step.clause back
      (fun node member => proper node (by simp [member]))
      (List.IsChain.right_of_append alternating) step.after

/-- A shell with a command that the operator interrupts and one that just runs. -/
def halting : Shell Unit where
  registry := .afterCalls [
    { Command.ofName "stop" "Is interrupted" with
      body := some fun _ => .fail (.ofRead .interrupted) },
    { Command.ofName "next" "Runs" with body := some fun _ => .done () }]
  settings := .default

/-- A session in which nothing has been typed. -/
def quiet : Session Unit := ⟨.ofKeys [], .inMemory 80, .missing, ()⟩

/-- The interrupted step of a line that starts with the command. -/
def stoppedStep : Step (Scene Unit) where
  clause := ⟨[⟨0, ['s', 't', 'o', 'p'], .word⟩]⟩
  before := ⟨quiet.console, ()⟩
  report := ⟨"stop", some ⟨"stop", [], .empty, "stop"⟩,
    .error (.execution "stop" (.ofRead .interrupted))⟩
  after := ⟨quiet.console, ()⟩

/-- The step of the other command at an offset. -/
def nextStep (start : Nat) : Step (Scene Unit) where
  clause := ⟨[⟨start, ['n', 'e', 'x', 't'], .word⟩]⟩
  before := ⟨quiet.console, ()⟩
  report := ⟨"next", some ⟨"next", [], .empty, "next"⟩, .ok (.executed "next")⟩
  after := ⟨quiet.console, ()⟩

/-- An interrupt does not end the line: a clause behind an `||` is called. -/
theorem called_after_interrupt :
    ¬∀ (shell : Shell Unit) (line : String) (session : Session Unit)
      (earlier later : List (Step (Scene Unit))) (step : Step (Scene Unit)),
      lineSteps shell.registry shell.settings.askStyle line
        ⟨session.console, session.store⟩ = earlier ++ step :: later →
      step.report.isInterrupted = true →
      (∀ other ∈ later, other.report.call = none) ∧
        (shell.runOnce line session).1 = .error .interrupted := by
  intro silenced
  have steps : lineSteps halting.registry halting.settings.askStyle "stop || next"
      ⟨quiet.console, quiet.store⟩ = [] ++ stoppedStep :: [nextStep 8] := by
    rfl
  have silent :=
    (silenced halting "stop || next" quiet [] [nextStep 8] stoppedStep steps rfl).1
  have uncalled := silent (nextStep 8) List.mem_cons_self
  cases uncalled

/-- The clause behind the `&&` is skipped and the one behind the `||` is next. -/
theorem interrupted_stop :
    (halting.runOnce "stop && next || next" quiet).1 = .error .interrupted ∧
      ∃ back, Node.fallback? back = some (nextStep 16).clause := by
  have steps : lineSteps halting.registry halting.settings.askStyle "stop && next || next"
      ⟨quiet.console, quiet.store⟩ = [] ++ stoppedStep :: [nextStep 16] := by
    rfl
  obtain ⟨ended, front, back, -, -, -, next⟩ :=
    runOnce_of_interrupted halting "stop && next || next" quiet [] [nextStep 16]
      stoppedStep steps rfl
  exact ⟨ended, back, next.symm⟩

end Shell

end OperatorShell
