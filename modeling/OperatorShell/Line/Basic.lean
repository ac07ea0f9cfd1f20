import OperatorShell.Line.Token

/-!
# Command lines

A line is a sequence of clauses joined by operators, and a clause holds the tokens
of one command.  Every text is a line: `parse` never fails.  `render` writes the
tokens with one space between them, which is the normal form of a line.
-/

namespace OperatorShell

open Text

namespace Line

/-- The tokens of one command. -/
structure Clause where
  tokens : List Token
  deriving DecidableEq, Repr

/-- A part of a line: one command, or an operator between commands. -/
inductive Node where
  | clause (body : Clause)
  | operator (token : Token)
  deriving DecidableEq, Repr

namespace Clause

/-- Values of the positional tokens that the clause starts with: the words in
which a command is looked up. -/
def leadingWords (clause : Clause) : List String :=
  (clause.tokens.takeWhile Token.isPositional).map fun token =>
    String.ofList token.value

/-- Names of all option keys, without dashes. -/
def optionNames (clause : Clause) : List (List Char) :=
  clause.tokens.filterMap Token.optionName?

/-- Byte offset of the first token. -/
def start (clause : Clause) : Nat :=
  (clause.tokens.head?.map Token.start).getD 0

/-- Byte offset right after the last token. -/
def stop (clause : Clause) : Nat :=
  (clause.tokens.getLast?.map Token.stop).getD 0

/-- The part of the line that the clause takes up. -/
def rawText (clause : Clause) (line : List Char) : List Char :=
  slice clause.start clause.stop line

end Clause

namespace Node

/-- The tokens of the node. -/
def tokens : Node → List Token
  | .clause body => body.tokens
  | .operator token => [token]

/-- Put a token in front of the nodes: an operator stands alone, anything else
joins a clause that starts there. -/
def prepend (token : Token) (nodes : List Node) : List Node :=
  if token.kind.isOperator then .operator token :: nodes
  else
    match nodes with
    | .clause body :: rest => .clause ⟨token :: body.tokens⟩ :: rest
    | nodes => .clause ⟨[token]⟩ :: nodes

/-- Group tokens into clauses and operators. -/
def group (tokens : List Token) : List Node := tokens.foldr prepend []

/-- The clause of a node that is one. -/
def clause? : Node → Option Clause
  | .clause body => some body
  | .operator _ => none

/-- The token of an operator. -/
def operator? : Node → Option Token
  | .clause _ => none
  | .operator token => some token

theorem tokens_prepend (token : Token) (nodes : List Node) :
    (prepend token nodes).flatMap tokens = token :: nodes.flatMap tokens := by
  unfold prepend
  split
  · simp [tokens]
  · split <;> simp [tokens]

/-- Grouping neither loses nor reorders tokens. -/
theorem tokens_group (all : List Token) : (group all).flatMap tokens = all := by
  induction all with
  | nil => rfl
  | cons token rest ih =>
      rw [group, List.foldr_cons, tokens_prepend]
      exact congrArg (token :: ·) ih

end Node

end Line

/-- A parsed line. -/
structure Line where
  nodes : List Line.Node
  deriving DecidableEq, Repr

namespace Line

/-- Read a line. -/
def parse (line : List Char) : Line := ⟨Node.group (tokenize line)⟩

/-- All tokens, from left to right. -/
def tokens (line : Line) : List Token := line.nodes.flatMap Node.tokens

/-- The commands of the line. -/
def clauses (line : Line) : List Clause := line.nodes.filterMap Node.clause?

/-- The operators of the line. -/
def operators (line : Line) : List Token := line.nodes.filterMap Node.operator?

/-- The texts of the tokens with one space between them. -/
def render (line : Line) : List Char :=
  [' '].intercalate (line.tokens.map Token.text)

/-- Parsing keeps the tokens of the line. -/
@[simp] theorem tokens_parse (line : List Char) :
    (parse line).tokens = tokenize line :=
  Node.tokens_group (tokenize line)

end Line

end OperatorShell
