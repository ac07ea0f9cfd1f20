import OperatorShell.Proofs.Line.Partition

/-!
# The normal form of a line

Rendering writes the tokens of a line with one space between them.  Each token is a piece
and all but the last are closed, so reading the rendered text finds the same texts again;
and as kinds and clauses depend on the texts only, it finds the same nodes, though in other
places.
-/

namespace OperatorShell.Line

open OperatorShell.Text

namespace Token

/-- What the token is, apart from where it stands. -/
def unplaced (token : Token) : Token := { token with start := 0 }

@[simp] theorem text_unplaced (token : Token) : token.unplaced.text = token.text := rfl

@[simp] theorem kind_unplaced (token : Token) : token.unplaced.kind = token.kind := rfl

end Token

namespace Node

/-- The node with every token changed. -/
def map (change : Token → Token) : Node → Node
  | .clause body => .clause ⟨body.tokens.map change⟩
  | .operator token => .operator (change token)

/-- What the node is, apart from where it stands. -/
def unplaced : Node → Node := map Token.unplaced

section Mapping

variable {change : Token → Token} (keeps : ∀ token, (change token).kind = token.kind)

include keeps

theorem prepend_map (token : Token) (nodes : List Node) :
    prepend (change token) (nodes.map (map change)) = (prepend token nodes).map (map change) := by
  cases isOperator : token.kind.isOperator with
  | true => simp [prepend, keeps, isOperator, map]
  | false =>
      cases nodes with
      | nil => simp [prepend, keeps, isOperator, map]
      | cons node rest => cases node <;> simp [prepend, keeps, isOperator, map]

/-- Grouping looks at kinds only. -/
theorem group_map (tokens : List Token) :
    group (tokens.map change) = (group tokens).map (map change) := by
  induction tokens with
  | nil => rfl
  | cons token rest ih =>
      simp only [group, List.map_cons, List.foldr_cons] at ih ⊢
      rw [ih, prepend_map keeps]

end Mapping

end Node

section Rendering

/-- Behind the first text every text has a space in front. -/
theorem intercalate_eq_spaced (first : List Char) (rest : List (List Char)) :
    [' '].intercalate (first :: rest) = spaced first rest := by
  induction rest generalizing first with
  | nil => simp [spaced]
  | cons next rest ih => simp [List.intercalate_cons_cons, ih, spaced]

/-- Texts that are pieces are found again when they are written with spaces between them,
as long as quotes are left open at most by the last one. -/
theorem map_text_split_intercalate (texts : List (List Char))
    (pieces : ∀ text ∈ texts, IsPiece text) (closed : ∀ text ∈ texts.dropLast, IsClosed text) :
    (split ([' '].intercalate texts)).map Piece.text = texts := by
  cases texts with
  | nil => rfl
  | cons first rest =>
      obtain ⟨single, others⟩ := List.forall_mem_cons.mp pieces
      obtain ⟨behind, cut, same⟩ := split_spaced first rest others closed
      rw [IsPiece] at single
      rw [intercalate_eq_spaced, cut, single, List.map_append, same]
      rfl

theorem map_text_classifyAll (previous : Option Kind) (pieces : List Piece) :
    (classifyAll previous pieces).map Token.text = pieces.map Piece.text := by
  induction pieces generalizing previous with
  | nil => rfl
  | cons piece rest ih => simp [classifyAll, ih]

/-- Pieces with the same texts are the same tokens, apart from where they stand. -/
theorem map_unplaced_classifyAll (previous : Option Kind) {pieces others : List Piece}
    (same : pieces.map Piece.text = others.map Piece.text) :
    (classifyAll previous pieces).map Token.unplaced =
      (classifyAll previous others).map Token.unplaced := by
  induction pieces generalizing previous others with
  | nil =>
      obtain rfl : others = [] := by simpa using same.symm
      rfl
  | cons piece rest ih =>
      cases others with
      | nil => cases same
      | cons other others =>
          obtain ⟨text, texts⟩ := List.cons.inj same
          simp [classifyAll, Token.unplaced, text, ih _ texts]

/-- Rendering keeps the texts of the tokens. -/
theorem map_text_split_render (line : List Char) :
    (split (parse line).render).map Piece.text = (split line).map Piece.text := by
  have partition := isPartition_tokenize line
  rw [render, tokens_parse, map_text_split_intercalate, tokenize, map_text_classifyAll]
  · rw [List.forall_mem_map]
    intro token member
    apply isPiece_iff.mpr
    constructor
    · exact partition.nonempty token member
    · exact partition.quotesSpaces token member
  · rw [← List.map_dropLast, List.forall_mem_map]
    exact partition.closed

theorem map_unplaced_tokenize_render (line : List Char) :
    (tokenize (parse line).render).map Token.unplaced =
      (tokenize line).map Token.unplaced :=
  map_unplaced_classifyAll none (map_text_split_render line)

end Rendering

/-- What is rendered is a normal form: it is read as the nodes of the line it was made of,
with the same texts and kinds in other places, and it is rendered as it stands. -/
theorem parse_render (line : List Char) :
    (parse (parse line).render).nodes.map Node.unplaced =
        (parse line).nodes.map Node.unplaced ∧
      (parse (parse line).render).render = (parse line).render := by
  constructor
  · simp only [Node.unplaced, parse, ← Node.group_map Token.kind_unplaced]
    exact congrArg Node.group (map_unplaced_tokenize_render line)
  · have texts : (tokenize (parse line).render).map Token.text =
        (tokenize line).map Token.text := by
      simp only [tokenize, map_text_classifyAll]
      exact map_text_split_render line
    rw [render, tokens_parse, texts, ← tokens_parse line, ← render]

example : (parse "add  \"two  words".toList).render = "add \"two  words".toList := by decide

end OperatorShell.Line
