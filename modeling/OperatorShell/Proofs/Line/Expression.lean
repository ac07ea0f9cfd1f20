import Mathlib.Data.List.Chain
import OperatorShell.Proofs.Line.Nodes

/-!
# Lines as expressions

A line reads as an expression that associates to the left: without the operators at
its two ends, and with only the last operator of every run, what is left is a clause
followed by pairs of an operator and a clause.  Every line with a clause has such a
reading, and the expression holds exactly the clauses of the line.
-/

namespace OperatorShell.Line

/-- Clauses joined from left to right. -/
inductive Expression where
  | clause (body : Clause)
  | join (left : Expression) (connective : Connective) (right : Clause)
  deriving DecidableEq, Repr

namespace Node

/-- The nodes without the operators at either end. -/
def trimOperators (nodes : List Node) : List Node :=
  (nodes.dropWhile isOperator).rdropWhile isOperator

/-- The nodes with only the last operator of every run of operators. -/
def lastOfRuns : List Node → List Node
  | [] => []
  | .operator _ :: .operator later :: rest => lastOfRuns (.operator later :: rest)
  | node :: rest => node :: lastOfRuns rest

/-- Nodes that can follow a clause up to the last clause of a line: runs of operators,
each with one clause behind it. -/
inductive Joined : List Node → Prop where
  | nil : Joined []
  | joint {token : Token} {connective : Connective} {body : Clause} {rest : List Node}
      (known : token.connective? = some connective) :
      Joined rest → Joined (.operator token :: .clause body :: rest)
  | overridden {token later : Token} {rest : List Node} :
      Joined (.operator later :: rest) →
      Joined (.operator token :: .operator later :: rest)

@[simp] theorem lastOfRuns_clause (body : Clause) (rest : List Node) :
    lastOfRuns (.clause body :: rest) = .clause body :: lastOfRuns rest := by
  simp [lastOfRuns]

@[simp] theorem lastOfRuns_operator_clause (token : Token) (body : Clause)
    (rest : List Node) :
    lastOfRuns (.operator token :: .clause body :: rest) =
      .operator token :: .clause body :: lastOfRuns rest := by
  simp [lastOfRuns]

@[simp] theorem lastOfRuns_operator_operator (token later : Token) (rest : List Node) :
    lastOfRuns (.operator token :: .operator later :: rest) =
      lastOfRuns (.operator later :: rest) := by
  simp [lastOfRuns]

/-- What stands behind a clause is joined to it unless an operator is left over at the
end. -/
theorem joined_of_alternating (body : Clause) (nodes : List Node)
    (proper : ∀ node ∈ nodes, node.IsProper)
    (alternating : Alternating (.clause body :: nodes))
    (closed : ∀ node ∈ nodes.getLast?, node.isOperator = false) : Joined nodes := by
  match nodes with
  | [] => exact .nil
  | .clause other :: rest =>
      have apart := (List.isChain_cons_cons.mp alternating).1
      simp [isOperator] at apart
  | [.operator token] => simp [isOperator] at closed
  | .operator token :: .operator later :: rest =>
      have shorter := (List.isChain_cons_cons.mp alternating).2
      exact .overridden <| joined_of_alternating body (.operator later :: rest)
        (fun node member => proper node (List.mem_cons_of_mem _ member))
        (.cons_cons (.inr rfl) (List.isChain_cons_cons.mp shorter).2)
        (by simpa using closed)
  | .operator token :: .clause other :: rest =>
      obtain ⟨connective, known⟩ :=
        exists_connective (proper (.operator token) (by simp))
      have shorter := (List.isChain_cons_cons.mp alternating).2
      refine .joint known <| joined_of_alternating other rest
        (fun node member => proper node (by simp [member]))
        (List.isChain_cons_cons.mp shorter).2 ?_
      cases rest with
      | nil => simp
      | cons node rest => simpa using closed

/-- Trimming leaves a stretch of the nodes. -/
theorem trimOperators_infix (nodes : List Node) : trimOperators nodes <:+: nodes :=
  (List.rdropWhile_prefix isOperator (nodes.dropWhile isOperator)).isInfix.trans
    (List.dropWhile_suffix isOperator).isInfix

/-- Trimmed nodes do not start with an operator. -/
theorem isOperator_of_mem_head?_trimOperators {nodes : List Node} {node : Node}
    (first : node ∈ (trimOperators nodes).head?) : node.isOperator = false := by
  obtain ⟨rest, whole⟩ :=
    List.rdropWhile_prefix isOperator (nodes.dropWhile isOperator)
  have starts : (nodes.dropWhile isOperator).head? = some node := by
    rw [← whole, List.head?_append]
    simpa [trimOperators] using congrArg (Option.or · rest.head?) first
  have plain := List.head?_dropWhile_not isOperator nodes
  rw [starts] at plain
  exact plain

/-- Trimmed nodes do not end with an operator. -/
theorem isOperator_of_mem_getLast?_trimOperators {nodes : List Node} {node : Node}
    (last : node ∈ (trimOperators nodes).getLast?) : node.isOperator = false := by
  obtain ⟨nonempty, equal⟩ := List.mem_getLast?_eq_getLast last
  have plain := List.rdropWhile_last_not isOperator _ nonempty
  rw [equal]
  exact Bool.eq_false_iff.mpr plain

@[simp] theorem filterMap_clause?_operator (token : Token) (rest : List Node) :
    (Node.operator token :: rest).filterMap clause? = rest.filterMap clause? := rfl

@[simp] theorem filterMap_clause?_clause (body : Clause) (rest : List Node) :
    (Node.clause body :: rest).filterMap clause? = body :: rest.filterMap clause? := rfl

@[simp] theorem filterMap_clause?_dropWhile (nodes : List Node) :
    (nodes.dropWhile isOperator).filterMap clause? = nodes.filterMap clause? := by
  induction nodes with
  | nil => rfl
  | cons node rest ih =>
      cases node with
      | clause body => rfl
      | operator token =>
          rw [List.dropWhile_cons_of_pos rfl]
          exact ih

@[simp] theorem filterMap_clause?_trimOperators (nodes : List Node) :
    (trimOperators nodes).filterMap clause? = nodes.filterMap clause? := by
  simp only [trimOperators, List.rdropWhile, List.filterMap_reverse,
    filterMap_clause?_dropWhile, List.reverse_reverse]

@[simp] theorem filterMap_clause?_lastOfRuns (nodes : List Node) :
    (lastOfRuns nodes).filterMap clause? = nodes.filterMap clause? := by
  fun_induction lastOfRuns nodes with
  | case1 => rfl
  | case2 token later rest ih => simpa using ih
  | case3 node rest _ ih => simp only [List.filterMap_cons, ih]

/-- Trimmed nodes are either gone or start with a clause that the others are joined
to. -/
theorem trimOperators_cases (nodes : List Node) (proper : ∀ node ∈ nodes, node.IsProper)
    (alternating : Alternating nodes) :
    trimOperators nodes = [] ∨
      ∃ body rest, trimOperators nodes = .clause body :: rest ∧ Joined rest := by
  have inside := trimOperators_infix nodes
  have opens := @isOperator_of_mem_head?_trimOperators nodes
  have closes := @isOperator_of_mem_getLast?_trimOperators nodes
  rcases trimmed : trimOperators nodes with _ | ⟨node, rest⟩
  · exact .inl rfl
  · rw [trimmed] at inside opens closes
    cases node with
    | operator token => cases opens rfl
    | clause body =>
        refine .inr ⟨body, rest, rfl, joined_of_alternating body rest ?_ ?_ ?_⟩
        · intro other member
          exact proper other (inside.subset (List.mem_cons_of_mem _ member))
        · exact List.IsChain.infix alternating inside
        · intro last isLast
          apply closes
          cases rest with
          | nil => cases isLast
          | cons other rest => simpa using isLast

end Node

namespace Expression

/-- The clauses from left to right. -/
def clauses : Expression → List Clause
  | .clause body => [body]
  | .join left _ right => left.clauses ++ [right]

/-- Join pairs of an operator and a clause to an expression. -/
def extend (left : Expression) : List Node → Option Expression
  | [] => some left
  | .operator token :: .clause body :: rest =>
      match token.connective? with
      | some connective => extend (.join left connective body) rest
      | none => none
  | _ => none

/-- Read a clause and the pairs behind it. -/
def ofNodes? : List Node → Option Expression
  | .clause body :: rest => extend (.clause body) rest
  | _ => none

/-- Reading on takes in every pair. -/
theorem exists_extend_lastOfRuns {nodes : List Node} (joined : Node.Joined nodes)
    (left : Expression) :
    ∃ expression, left.extend (Node.lastOfRuns nodes) = some expression ∧
      expression.clauses = left.clauses ++ nodes.filterMap Node.clause? := by
  induction joined generalizing left with
  | nil => exact ⟨left, rfl, by simp⟩
  | @joint token connective body rest known _ ih =>
      obtain ⟨expression, reads, holds⟩ := ih (.join left connective body)
      refine ⟨expression, by simpa [extend, known] using reads, ?_⟩
      rw [holds]
      simp [clauses]
  | overridden _ ih =>
      obtain ⟨expression, reads, holds⟩ := ih left
      exact ⟨expression, by simpa using reads, by simpa using holds⟩

end Expression

/-- The expression that a line reads as. -/
def expression? (line : Line) : Option Expression :=
  Expression.ofNodes? (Node.lastOfRuns (Node.trimOperators line.nodes))

/-- A line reads as nothing just when it has no clause, and else as an expression of
its clauses. -/
theorem clauses_expression? (line : List Char) :
    (parse line).expression?.elim [] Expression.clauses = (parse line).clauses := by
  have holds := Node.filterMap_clause?_trimOperators (parse line).nodes
  rw [expression?, clauses]
  rcases Node.trimOperators_cases _ (isProper_nodes line) (alternating_nodes line) with
    gone | ⟨body, rest, starts, joined⟩
  · rw [← holds, gone]
    rfl
  · obtain ⟨expression, reads, equal⟩ :=
      Expression.exists_extend_lastOfRuns joined (.clause body)
    rw [← holds, starts, Node.lastOfRuns_clause, Expression.ofNodes?, reads]
    simpa [Expression.clauses] using equal

example :
    (parse "&& a && || b &&".toList).expression? =
      some (.join (.clause ⟨[⟨3, ['a'], .word⟩]⟩) .or ⟨[⟨11, ['b'], .word⟩]⟩) := by
  decide

end OperatorShell.Line
