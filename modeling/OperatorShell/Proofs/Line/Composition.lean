import OperatorShell.Proofs.Line.Grammar

/-!
# Putting lines together and cutting them up

Both states of a reader, that of the quotes and the kind of the last token, are fresh behind
an operator.  So texts joined by an operator are read one by one, and the part of a line that
a clause takes up is read as that clause alone.  Values that were quoted and are written with
spaces between them are found again.
-/

namespace OperatorShell.Line

open OperatorShell.Text

/-- Quoted values with a space between them are as many pieces, and without the quotes those
are the values again. -/
theorem unquote_split_quoted (values : List (List Char)) :
    let pieces := split ([' '].intercalate (values.map quote))
    pieces.length = values.length ∧ pieces.map (fun piece => unquote piece.text) = values := by
  intro pieces
  have texts : pieces.map Piece.text = values.map quote := by
    apply map_text_split_intercalate
    · rw [List.forall_mem_map]
      intro value _
      exact isPiece_quote value
    · rw [← List.map_dropLast, List.forall_mem_map]
      intro value _
      exact isClosed_quote value
  constructor
  · have lengths := congrArg List.length texts
    rwa [List.length_map, List.length_map] at lengths
  · calc pieces.map (fun piece => unquote piece.text)
        = (pieces.map Piece.text).map unquote := by rw [List.map_map]; rfl
      _ = values.map fun value => unquote (quote value) := by
          rw [texts, List.map_map]
          rfl
      _ = values := by simp only [unquote_quote, List.map_id']

example : (split ([' '].intercalate (["", "a b", "\"\\"].map (quote ·.toList)))).length = 3 := by
  decide

section Joining

variable {front : List Char}

/-- An operator between spaces joins the nodes of the texts on its sides. -/
theorem parse_append_operator (closed : IsClosed front) (connective : Connective)
    (back : List Char) :
    let before := front ++ [' '] ++ connective.text ++ [' ']
    (parse (before ++ back)).nodes =
      (parse front).nodes ++
        .operator ⟨byteLength front + 1, connective.text, .operator connective⟩ ::
          (parse back).nodes.map (Node.map (Token.shift (byteLength before))) := by
  intro before
  have line_eq : before ++ back = front ++ ' ' :: (connective.text ++ ' ' :: back) := by
    simp [before]
  have width : byteLength before = byteLength front + 4 := by
    have blank : byteLength [' '] = 1 := rfl
    simp only [before, byteLength_append, byteLength_text, blank]
  have tokens_eq := tokenize_append_operator closed connective back
  rw [← line_eq, ← width] at tokens_eq
  rw [parse, tokens_eq, Node.group_append_operator (by rfl), Node.group_map (Token.kind_shift _)]
  rfl

/-- Parts that begin and end with operators, one of them with a quoted operator. -/
theorem parse_quoted_parts :
    IsClosed "|| é \"x &&\"".toList ∧
      (parse "|| é \"x &&\" && b ||".toList).nodes =
        (parse "|| é \"x &&\"".toList).nodes ++
          .operator ⟨13, ['&', '&'], .operator .and⟩ ::
            (parse "b ||".toList).nodes.map (Node.map (Token.shift 16)) := by
  have closed : IsClosed "|| é \"x &&\"".toList := by decide
  constructor
  · exact closed
  · exact parse_append_operator closed .and "b ||".toList

end Joining

section Slicing

variable {line left right : List Char} {front back : List Piece} {piece : Piece}

/-- Behind closed text a token is awaited where it is in the rest alone. -/
theorem awaitsToken_of_append (closed : IsClosed left) (awaits : AwaitsToken (left ++ right)) :
    AwaitsToken right := by
  rcases List.eq_nil_or_concat right with rfl | ⟨rest, last, rfl⟩
  · exact .inl rfl
  · rw [List.concat_eq_append] at awaits ⊢
    rcases awaits with empty | ⟨before, closedBefore, line_eq⟩
    · simp at empty
    · rw [← List.append_assoc] at line_eq
      obtain ⟨rfl, same⟩ := List.append_inj' line_eq rfl
      rw [same]
      exact .inr ⟨rest, (isClosed_append closed).mp closedBefore, rfl⟩

/-- From the start of a piece on, a line is cut as the rest alone. -/
theorem exists_rest_of_split (cut : split line = front ++ piece :: back) :
    ∃ left right, line = left ++ right ∧ byteLength left = piece.start ∧ AwaitsToken left ∧
      (split right).map (Piece.shift piece.start) = piece :: back := by
  induction line using line_induction generalizing back with
  | nil => simp [split, OperatorShell.Line.cut] at cut
  | space before closed ih =>
      rw [split_concat_space closed] at cut
      obtain ⟨left, right, rfl, start, awaits, pieces⟩ := ih cut
      have closedRight := (isClosed_append (isClosed_of_awaitsToken awaits)).mp closed
      refine ⟨left, right ++ [' '], by simp, start, awaits, ?_⟩
      rwa [split_concat_space closedRight]
  | piece before typed awaitsTyped single ih =>
      rw [split_append_piece awaitsTyped single] at cut
      rcases List.eq_nil_or_concat back with rfl | ⟨others, last, rfl⟩
      · obtain ⟨-, same⟩ := List.append_inj' cut rfl
        obtain rfl := List.singleton_inj.mp same
        rw [IsPiece] at single
        exact ⟨before, typed, rfl, rfl, awaitsTyped, by simp [single, Piece.shift]⟩
      · rw [List.concat_eq_append, ← List.cons_append, ← List.append_assoc] at cut
        obtain ⟨cutBefore, same⟩ := List.append_inj' cut rfl
        obtain rfl := List.singleton_inj.mp same
        obtain ⟨left, right, rfl, start, awaits, pieces⟩ := ih cutBefore
        have closedLeft := isClosed_of_awaitsToken awaits
        have awaitsRight := awaitsToken_of_append closedLeft awaitsTyped
        refine ⟨left, right ++ typed, by simp, start, awaits, ?_⟩
        rw [split_append_piece awaitsRight single, List.map_append, pieces]
        simp [Piece.shift, start, Nat.add_comm]

/-- Up to the end of a piece, a line is cut as the text in front alone. -/
theorem exists_start_of_split (cut : split line = front ++ piece :: back) :
    ∃ left right, line = left ++ right ∧ byteLength left = piece.stop ∧
      split left = front ++ [piece] := by
  induction line using line_induction generalizing back with
  | nil => simp [split, OperatorShell.Line.cut] at cut
  | space before closed ih =>
      rw [split_concat_space closed] at cut
      obtain ⟨left, right, rfl, stop, pieces⟩ := ih cut
      exact ⟨left, right ++ [' '], by simp, stop, pieces⟩
  | piece before typed awaits single ih =>
      have whole := split_append_piece awaits single
      rw [whole] at cut
      rcases List.eq_nil_or_concat back with rfl | ⟨others, last, rfl⟩
      · obtain ⟨-, same⟩ := List.append_inj' cut rfl
        obtain rfl := List.singleton_inj.mp same
        exact ⟨before ++ typed, [], by simp, byteLength_append _ _, whole.trans cut⟩
      · rw [List.concat_eq_append, ← List.cons_append, ← List.append_assoc] at cut
        obtain ⟨left, right, rfl, stop, pieces⟩ := ih (List.append_inj' cut rfl).1
        exact ⟨left, right ++ typed, by simp, stop, pieces⟩

/-- The part of a line that a stretch of pieces takes up is cut into these pieces. -/
theorem exists_slice_of_split {own : List Piece} {first last : Piece}
    (isFirst : own.head? = some first) (isLast : own.getLast? = some last)
    (cut : split line = front ++ (own ++ back)) :
    ∃ left text right, line = left ++ (text ++ right) ∧ byteLength left = first.start ∧
      byteLength left + byteLength text = last.stop ∧
      (split text).map (Piece.shift first.start) = own := by
  obtain ⟨others, rfl⟩ := List.head?_eq_some_iff.mp isFirst
  obtain ⟨init, own_eq⟩ := List.getLast?_eq_some_iff.mp isLast
  have upToLast : split line = front ++ init ++ last :: back := by
    rw [cut, own_eq]
    simp
  obtain ⟨start, right, rfl, stop, startCut⟩ := exists_start_of_split upToLast
  rw [List.append_assoc, ← own_eq] at startCut
  obtain ⟨left, text, rfl, leftStart, -, pieces⟩ := exists_rest_of_split startCut
  rw [byteLength_append] at stop
  exact ⟨left, text, right, List.append_assoc _ _ _, leftStart, stop, pieces⟩

end Slicing

section Replaying

variable {line : List Char} {body : Clause}

/-- Tokens end where their pieces do. -/
theorem map_stop_getLast?_classifyAll (previous : Option Kind) (pieces : List Piece) :
    (classifyAll previous pieces).getLast?.map Token.stop = pieces.getLast?.map Piece.stop := by
  induction pieces generalizing previous with
  | nil => rfl
  | cons piece rest ih =>
      have later := ih (some (Kind.classify piece.text previous))
      cases rest with
      | nil => rfl
      | cons next others => simpa [classifyAll] using later

/-- A clause moves with its tokens. -/
theorem Clause.start_stop_shift (distance : Nat) {tokens : List Token} (nonempty : tokens ≠ []) :
    let moved := Clause.mk (tokens.map (Token.shift distance))
    moved.start = (Clause.mk tokens).start + distance ∧
      moved.stop = (Clause.mk tokens).stop + distance := by
  intro moved
  constructor
  · cases tokens with
    | nil => exact (nonempty rfl).elim
    | cons token rest => rfl
  · have isLast := List.getLast?_eq_some_getLast nonempty
    simp [moved, Clause.stop, isLast]

/-- A clause that fills a text from end to end has all of it as its text. -/
theorem Clause.rawText_of_fills {clause : Clause} {text : List Char} (start : clause.start = 0)
    (stop : clause.stop = byteLength text) : clause.rawText text = text := by
  have whole := slice_append [] text []
  rw [Clause.rawText, start, stop]
  simpa using whole

/-- A clause takes up a part of its line and holds the tokens of this part, moved to where it
stands. -/
theorem exists_slice_of_mem_clauses (member : body ∈ (parse line).clauses) :
    ∃ left text right, line = left ++ (text ++ right) ∧ byteLength left = body.start ∧
      body.start + byteLength text = body.stop ∧
      body.tokens = (tokenize text).map (Token.shift body.start) := by
  obtain ⟨front, first, rest, back, cut, own, -⟩ := exists_split_of_mem_clauses member
  have isLast := List.getLast?_eq_some_getLast (List.cons_ne_nil first rest)
  obtain ⟨left, text, right, rfl, start, stop, pieces⟩ :=
    exists_slice_of_split (List.head?_cons ..) isLast cut
  have start_eq : body.start = first.start := by simp [Clause.start, own, classifyAll]
  have stop_eq : body.stop = (List.getLast _ (List.cons_ne_nil first rest)).stop := by
    rw [Clause.stop, own, map_stop_getLast?_classifyAll, isLast]
    rfl
  refine ⟨left, text, right, rfl, ?_, ?_, ?_⟩
  · rw [start, start_eq]
  · rw [start_eq, ← start, stop, stop_eq]
  · rw [own, ← pieces, classifyAll_shift, tokenize, start_eq]

/-- The text of a clause is a line of this clause alone, and its text is all of that line. -/
theorem parse_rawText (member : body ∈ (parse line).clauses) :
    ∃ replayed : Clause, (parse (body.rawText line)).nodes = [.clause replayed] ∧
      body.tokens = replayed.tokens.map (Token.shift body.start) ∧
      replayed.rawText (body.rawText line) = body.rawText line := by
  obtain ⟨nonempty, plain⟩ := isProper_nodes _ _ (mem_clauses_iff.mp member)
  obtain ⟨left, text, right, rfl, start, stop, shifted⟩ := exists_slice_of_mem_clauses member
  have text_eq : body.rawText (left ++ (text ++ right)) = text := by
    rw [Clause.rawText, ← stop, ← start, slice_append]
  rw [shifted, ne_eq, List.map_eq_nil_iff] at nonempty
  rw [shifted, List.forall_mem_map] at plain
  refine ⟨⟨tokenize text⟩, ?_, shifted, ?_⟩
  · rw [text_eq, parse]
    cases tokens_eq : tokenize text with
    | nil => exact (nonempty tokens_eq).elim
    | cons token others =>
        rw [tokens_eq] at plain
        exact Node.group_of_plain plain
  · obtain ⟨movedStart, movedStop⟩ := Clause.start_stop_shift body.start nonempty
    rw [← shifted] at movedStart movedStop
    change body.start = _ at movedStart
    change body.stop = _ at movedStop
    rw [text_eq]
    exact Clause.rawText_of_fills (by omega) (by omega)

end Replaying

end OperatorShell.Line
