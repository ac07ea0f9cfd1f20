import Mathlib.Data.List.Chain
import Mathlib.Data.List.DropRight
import OperatorShell.Line.Basic

/-!
# The shape of a parsed line

Grouping puts at least one token into every clause, keeps operators out of clauses, and
never puts two clauses side by side.  These facts hold of every line and are all that
the theory of running a line needs to know about parsing.
-/

namespace OperatorShell.Line

namespace Node

/-- Whether the node joins two clauses. -/
def isOperator : Node → Bool
  | .clause _ => false
  | .operator _ => true

/-- The node holds tokens of the right kinds. -/
def IsProper : Node → Prop
  | .clause body =>
      body.tokens ≠ [] ∧ ∀ token ∈ body.tokens, token.kind.isOperator = false
  | .operator token => token.kind.isOperator = true

/-- Of two neighbours at least one is an operator. -/
def Alternating (nodes : List Node) : Prop :=
  nodes.IsChain fun left right => left.isOperator = true ∨ right.isOperator = true

theorem isProper_prepend (token : Token) (nodes : List Node)
    (proper : ∀ node ∈ nodes, node.IsProper) :
    ∀ node ∈ prepend token nodes, node.IsProper := by
  unfold prepend
  split
  · rename_i isOperator
    exact List.forall_mem_cons.mpr ⟨isOperator, proper⟩
  · rename_i isNoOperator
    have plain : token.kind.isOperator = false := by simpa using isNoOperator
    split
    · rename_i body rest
      obtain ⟨⟨_, others⟩, later⟩ := List.forall_mem_cons.mp proper
      exact List.forall_mem_cons.mpr
        ⟨⟨by simp, List.forall_mem_cons.mpr ⟨plain, others⟩⟩, later⟩
    · exact List.forall_mem_cons.mpr ⟨⟨by simp, by simpa using plain⟩, proper⟩

theorem alternating_prepend (token : Token) (nodes : List Node)
    (alternating : Alternating nodes) : Alternating (prepend token nodes) := by
  unfold prepend
  split
  · cases nodes with
    | nil => exact .singleton _
    | cons node rest => exact .cons_cons (.inl rfl) alternating
  · split
    · rename_i body rest
      cases rest with
      | nil => exact .singleton _
      | cons node rest =>
          obtain ⟨apart, later⟩ := List.isChain_cons_cons.mp alternating
          exact .cons_cons apart later
    · rename_i startsWithoutClause
      cases nodes with
      | nil => exact .singleton _
      | cons node rest =>
          cases node with
          | clause body => exact (startsWithoutClause body rest rfl).elim
          | operator other => exact .cons_cons (.inr rfl) alternating

theorem isProper_group (all : List Token) : ∀ node ∈ group all, node.IsProper := by
  induction all with
  | nil => simp [group]
  | cons token rest ih => exact isProper_prepend token (group rest) ih

theorem alternating_group (all : List Token) : Alternating (group all) := by
  induction all with
  | nil => exact .nil
  | cons token rest ih => exact alternating_prepend token (group rest) ih

/-- A clause stands between operators or at an end of the tokens. -/
theorem exists_append_of_mem_group {tokens : List Token} {body : Clause}
    (member : .clause body ∈ group tokens) :
    ∃ front back, tokens = front ++ (body.tokens ++ back) ∧
      ∀ last ∈ front.getLast?, last.kind.isOperator = true := by
  obtain ⟨left, right, nodes_eq⟩ := List.append_of_mem member
  refine ⟨left.flatMap Node.tokens, right.flatMap Node.tokens, ?_, ?_⟩
  · rw [← tokens_group tokens, nodes_eq]
    simp [Node.tokens]
  · intro last isLast
    rcases List.eq_nil_or_concat left with rfl | ⟨others, neighbour, rfl⟩
    · cases isLast
    · rw [List.concat_eq_append, List.append_assoc, List.singleton_append] at nodes_eq
      rw [List.concat_eq_append] at isLast
      have apart := alternating_group tokens
      rw [nodes_eq, Alternating, List.isChain_append_cons_cons] at apart
      cases neighbour with
      | clause other => rcases apart.2.1 with isOperator | isOperator <;> cases isOperator
      | operator token =>
          have isOperator : token.kind.isOperator = true :=
            isProper_group tokens (.operator token) (by simp [nodes_eq])
          have same : token = last := by simpa [Node.tokens] using isLast
          rwa [← same]

/-- An operator node carries a connective. -/
theorem exists_connective {token : Token} (proper : (Node.operator token).IsProper) :
    ∃ connective, token.connective? = some connective := by
  have isOperator : token.kind.isOperator = true := proper
  rw [Token.connective?]
  cases known : token.kind with
  | operator connective => exact ⟨connective, rfl⟩
  | word | argument | key style | value =>
      rw [known] at isOperator
      cases isOperator

end Node

theorem isProper_nodes (line : List Char) : ∀ node ∈ (parse line).nodes, node.IsProper :=
  Node.isProper_group (tokenize line)

theorem alternating_nodes (line : List Char) : Node.Alternating (parse line).nodes :=
  Node.alternating_group (tokenize line)

end OperatorShell.Line
