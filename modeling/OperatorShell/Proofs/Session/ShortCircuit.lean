import OperatorShell.Proofs.Line.Expression
import OperatorShell.Session.Basic

/-!
# Short-circuit evaluation of a line

Running a line is evaluating the expression that it reads as: `e && c` evaluates `c`
only if `e` succeeded, `e || c` only if `e` failed, and an expression whose last clause
is not evaluated keeps the value of the rest.  The equation holds for every way of
running a single clause, so a skipped clause can have no effect of any kind.
-/

namespace OperatorShell

open Line Session Command

variable {σ ω : Type}

namespace Line

/-- Whether the clause behind an operator is evaluated, given the value of what stands
in front of it. -/
def Connective.demands : Connective → Bool → Bool
  | .and, value => value
  | .or, value => !value

end Line

namespace Session

/-- What evaluating an expression comes to. -/
structure Evaluation (ω : Type) where
  /-- Whether the expression succeeded. -/
  value : Bool
  /-- What is to say about the clauses that were evaluated, in order. -/
  reports : List Report
  state : ω

end Session

namespace Line

/-- Evaluate an expression, given how a single clause is run. -/
def Expression.eval (run : Clause → ω → Report × ω) : Expression → ω → Evaluation ω
  | .clause body, state =>
      let (report, after) := run body state
      ⟨report.succeeded, [report], after⟩
  | .join left connective right, state =>
      let first := left.eval run state
      if connective.demands first.value then
        let (report, after) := run right first.state
        ⟨report.succeeded, first.reports ++ [report], after⟩
      else first

/-- Evaluate a line; one that reads as nothing succeeds and does nothing. -/
def eval (line : Line) (run : Clause → ω → Report × ω) (state : ω) : Evaluation ω :=
  match line.expression? with
  | some expression => expression.eval run state
  | none => ⟨true, [], state⟩

end Line

namespace Session

/-! ## Operators that do not matter -/

@[simp] theorem runNodes_operator (run : Clause → ω → Report × ω)
    (pending : Option Connective) (succeeded : Option Bool) (token : Token)
    (rest : List Node) (state : ω) :
    runNodes run pending succeeded (.operator token :: rest) state =
      runNodes run token.connective? succeeded rest state := rfl

/-- Before the first clause no operator matters. -/
theorem runNodes_dropWhile (run : Clause → ω → Report × ω)
    (pending other : Option Connective) (nodes : List Node) (state : ω) :
    runNodes run pending none (nodes.dropWhile Node.isOperator) state =
      runNodes run other none nodes state := by
  induction nodes generalizing other with
  | nil => rfl
  | cons node rest ih =>
      cases node with
      | operator token =>
          rw [List.dropWhile_cons_of_pos rfl, runNodes_operator]
          exact ih token.connective?
      | clause body =>
          rw [List.dropWhile_cons_of_neg (by simp [Node.isOperator])]
          simp [runNodes, skips]

/-- Behind the last clause no operator matters. -/
theorem runNodes_append_operators (run : Clause → ω → Report × ω)
    (pending : Option Connective) (succeeded : Option Bool) (nodes later : List Node)
    (operators : ∀ node ∈ later, node.isOperator = true) (state : ω) :
    runNodes run pending succeeded (nodes ++ later) state =
      runNodes run pending succeeded nodes state := by
  induction nodes generalizing pending succeeded state with
  | nil =>
      induction later generalizing pending with
      | nil => rfl
      | cons node rest ih =>
          obtain ⟨first, others⟩ := List.forall_mem_cons.mp operators
          cases node with
          | clause body => cases first
          | operator token => exact ih others token.connective?
  | cons node rest ih =>
      cases node with
      | operator token => exact ih token.connective? succeeded state
      | clause body => simp only [List.cons_append, runNodes, ih]

theorem runNodes_trimOperators (run : Clause → ω → Report × ω) (nodes : List Node)
    (state : ω) :
    runNodes run none none (Node.trimOperators nodes) state =
      runNodes run none none nodes state := by
  let core := nodes.dropWhile Node.isOperator
  have whole : Node.trimOperators nodes ++ core.rtakeWhile Node.isOperator = core :=
    List.rdropWhile_append_rtakeWhile
  calc runNodes run none none (Node.trimOperators nodes) state
      = runNodes run none none core state := by
        rw [← whole, runNodes_append_operators]
        intro node member
        exact List.mem_rtakeWhile_imp member
    _ = runNodes run none none nodes state := runNodes_dropWhile run none none nodes state

/-- Of operators in a row only the last matters. -/
theorem runNodes_lastOfRuns (run : Clause → ω → Report × ω)
    (pending : Option Connective) (succeeded : Option Bool) (nodes : List Node)
    (state : ω) :
    runNodes run pending succeeded (Node.lastOfRuns nodes) state =
      runNodes run pending succeeded nodes state := by
  fun_induction Node.lastOfRuns nodes generalizing pending succeeded state with
  | case1 => rfl
  | case2 token later rest ih => rw [ih, runNodes_operator run _ _ token]; rfl
  | case3 node rest _ ih =>
      cases node with
      | operator token => exact ih token.connective? succeeded state
      | clause body => simp only [runNodes, ih]

/-! ## The loop and the expression -/

theorem skips_eq_not_demands (connective : Connective) (value : Bool) :
    skips (some connective) (some value) = !connective.demands value := by
  cases connective <;> cases value <;> rfl

/-- Evaluating an extended expression is evaluating the expression and running the nodes
that extend it. -/
theorem eval_of_extend (run : Clause → ω → Report × ω) (nodes : List Node)
    (left expression : Expression) (reads : left.extend nodes = some expression)
    (state : ω) :
    let first := left.eval run state
    let later := runNodes run none (some first.value) nodes first.state
    (expression.eval run state).reports = first.reports ++ later.1 ∧
      (expression.eval run state).state = later.2 := by
  fun_induction Expression.extend left nodes with
  | case1 left =>
      cases reads
      simp [runNodes]
  | case2 left token body rest connective known ih =>
      have joined := ih reads
      simp only [Expression.eval] at joined
      simp only [known, runNodes, skips_eq_not_demands]
      cases demanded : connective.demands (left.eval run state).value with
      | true => simpa [demanded] using joined
      | false => simpa [demanded] using joined
  | case3 left token body rest unknown => cases reads
  | case4 left nodes _ _ => cases reads

/-- The value of an expression is the status of the last clause that was evaluated. -/
theorem succeeded_getLast?_reports_eval (run : Clause → ω → Report × ω)
    (expression : Expression) (state : ω) :
    (expression.eval run state).reports.getLast?.map Report.succeeded =
      some (expression.eval run state).value := by
  induction expression with
  | clause body => simp [Expression.eval]
  | join left connective right ih =>
      simp only [Expression.eval]
      split
      · simp
      · exact ih

/-- Running the nodes of a line is evaluating the line, whatever running a clause
does. -/
theorem runNodes_eq_eval (run : Clause → ω → Report × ω) (line : List Char) (state : ω) :
    runNodes run none none (parse line).nodes state =
      (((parse line).eval run state).reports, ((parse line).eval run state).state) := by
  rw [← runNodes_trimOperators, ← runNodes_lastOfRuns]
  rw [Line.eval, expression?]
  rcases Node.trimOperators_cases _ (isProper_nodes line) (alternating_nodes line) with
    gone | ⟨body, rest, starts, joined⟩
  · rw [gone]
    rfl
  · obtain ⟨expression, reads, _⟩ :=
      Expression.exists_extend_lastOfRuns joined (.clause body)
    obtain ⟨reports, after⟩ := eval_of_extend run _ _ expression reads state
    rw [starts, Node.lastOfRuns_clause, Expression.ofNodes?, reads]
    simp only [reports, after]
    rfl

end Session

namespace Shell

/-- Printing about clauses ends well unless one of them was interrupted. -/
theorem announce_fst (reports : List Report) (console : Console) :
    (announce reports console).1 =
      if reports.any Report.isInterrupted then .error .interrupted else .ok () := by
  induction reports generalizing console with
  | nil => rfl
  | cons report rest ih =>
      rw [announce]
      cases interrupted : report.isInterrupted with
      | true => simp [interrupted]
      | false =>
          simp only [List.any_cons, interrupted, Bool.false_or, Bool.false_eq_true,
            if_false]
          split
          · exact ih _
          · exact ih console

/-- The status of a line is the value of the expression that it reads as. -/
theorem allWell_reports_eval (run : Clause → ω → Report × ω) (line : Line) (state : ω) :
    allWell (line.eval run state).reports = (line.eval run state).value := by
  rw [Line.eval]
  cases line.expression? with
  | none => rfl
  | some expression =>
      have last := succeeded_getLast?_reports_eval run expression state
      obtain ⟨report, isLast, status⟩ := Option.map_eq_some_iff.mp last
      simp only [allWell, isLast, status]

/-- Running a line is short-circuit evaluation.  The line reads as an expression of just
its clauses; running its nodes is evaluating that expression, whatever it is that runs a
single clause; and the status of the line is the value of the expression unless the
operator interrupted a command. -/
theorem runLine_eq_eval (shell : Shell σ) (line : String) (session : Session σ) :
    (parse line.toList).expression?.elim [] Expression.clauses =
        (parse line.toList).clauses ∧
      (∀ (ω : Type) (run : Clause → ω → Report × ω) (state : ω),
        runNodes run none none (parse line.toList).nodes state =
          (((parse line.toList).eval run state).reports,
            ((parse line.toList).eval run state).state)) ∧
      let evaluation := (parse line.toList).eval
        (runClause shell.registry shell.settings.askStyle line.toList)
        ⟨session.console, session.store⟩
      runLine shell.registry shell.settings.askStyle line
            ⟨session.console, session.store⟩ =
          (evaluation.reports, evaluation.state) ∧
        (shell.runOnce line session).1 =
          if evaluation.reports.any Report.isInterrupted then .error .interrupted
          else .ok evaluation.value := by
  refine ⟨clauses_expression? line.toList,
    fun _ run state => runNodes_eq_eval run line.toList state,
    runNodes_eq_eval _ line.toList _, ?_⟩
  simp only [runOnce, dispatch, runLine, runNodes_eq_eval, announce_fst,
    allWell_reports_eval]
  split <;> rfl

end Shell

end OperatorShell
