import OperatorShell.Proofs.Line.Tokens

/-!
# What a line is made of

A line is empty, or it ends with a space outside quotes, or a piece stands at its end where
a token was awaited.  By this case distinction, repeated from the back, the tokens take up
the line in order: each is the slice between its offsets, all else is spaces, and at most
the last one leaves its quotes open.
-/

namespace OperatorShell.Line

open OperatorShell.Text

/-- Every space of the text lies within a quoted run. -/
def QuotesSpaces (text : List Char) : Prop :=
  ∀ left right, text = left ++ ' ' :: right → ¬IsClosed left

section Pieces

variable {front text : List Char} {character : Char}

theorem isClosed_append (closed : IsClosed front) :
    IsClosed (front ++ text) ↔ IsClosed text := by
  rw [IsClosed] at closed
  rw [IsClosed, IsClosed, Quoting.after_append, closed]

/-- A character of a text is the last one, or it stands in what is before the last one. -/
theorem last_or_before_of_concat {left right : List Char} {last : Char}
    (cut : text ++ [last] = left ++ character :: right) :
    text = left ∧ last = character ∨ ∃ rest, text = left ++ character :: rest := by
  rcases List.eq_nil_or_concat right with rfl | ⟨rest, other, rfl⟩
  · obtain ⟨same, lasts⟩ := List.append_inj' cut rfl
    exact .inl ⟨same, List.singleton_inj.mp lasts⟩
  · rw [List.concat_eq_append, ← List.cons_append, ← List.append_assoc] at cut
    exact .inr ⟨rest, (List.append_inj' cut rfl).1⟩

theorem quotesSpaces_concat (quotes : QuotesSpaces text)
    (inside : character = ' ' → ¬IsClosed text) : QuotesSpaces (text ++ [character]) := by
  intro left right cut
  rcases last_or_before_of_concat cut with ⟨rfl, space⟩ | ⟨rest, before⟩
  · exact inside space
  · exact quotes left rest before

/-- The rest of the piece at hand and the pieces behind it have their spaces in quotes. -/
theorem quotesSpaces_of_cut (offset : Nat) (state : Quoting) (text : List Char) :
    (∀ left right, (cut offset state text).1 = left ++ ' ' :: right →
        state.after left ≠ .plain) ∧
      ∀ piece ∈ (cut offset state text).2, piece.text ≠ [] ∧ QuotesSpaces piece.text := by
  induction text generalizing offset state with
  | nil => simp [cut]
  | cons character rest ih =>
      simp only [cut]
      split
      · obtain ⟨first, later⟩ := ih (offset + character.utf8Size) .plain
        refine ⟨by simp, ?_⟩
        intro piece member
        rcases List.mem_append.mp member with here | there
        · obtain ⟨nonempty, rfl⟩ := Piece.mem_ofText_iff.mp here
          exact ⟨nonempty, first⟩
        · exact later piece there
      · rename_i joined
        obtain ⟨first, later⟩ := ih (offset + character.utf8Size) (state.step character)
        refine ⟨?_, later⟩
        intro left right cutHere
        cases left with
        | nil =>
            obtain ⟨rfl, -⟩ := List.cons.inj cutHere
            exact fun plain => joined ⟨plain, rfl⟩
        | cons other left =>
            obtain ⟨rfl, cutLater⟩ := List.cons.inj cutHere
            exact first left right cutLater

theorem quotesSpaces_of_mem_split {piece : Piece} (member : piece ∈ split text) :
    piece.text ≠ [] ∧ QuotesSpaces piece.text := by
  obtain ⟨first, later⟩ := quotesSpaces_of_cut 0 .plain text
  rcases List.mem_append.mp member with here | there
  · obtain ⟨nonempty, rfl⟩ := Piece.mem_ofText_iff.mp here
    exact ⟨nonempty, first⟩
  · exact later piece there

/-- Where all spaces are in quotes nothing is cut off. -/
theorem cut_of_quoted (offset : Nat) {state : Quoting}
    (quoted : ∀ left right, text = left ++ ' ' :: right → state.after left ≠ .plain) :
    cut offset state text = (text, []) := by
  induction text generalizing offset state with
  | nil => rfl
  | cons character rest ih =>
      have joined : ¬(state = .plain ∧ character = ' ') := by
        rintro ⟨plain, rfl⟩
        exact quoted [] rest rfl plain
      have later : cut (offset + character.utf8Size) (state.step character) rest = (rest, []) :=
        ih _ fun left right cutLater =>
          quoted (character :: left) right (congrArg (character :: ·) cutLater)
      simp [cut, joined, later]

/-- A piece is a text that is not empty and has all its spaces in quotes. -/
theorem isPiece_iff : IsPiece text ↔ text ≠ [] ∧ QuotesSpaces text := by
  constructor
  · intro single
    rw [IsPiece] at single
    have member : (⟨0, text⟩ : Piece) ∈ split text := by simp [single]
    exact quotesSpaces_of_mem_split member
  · rintro ⟨nonempty, quotes⟩
    rw [IsPiece, split, cut_of_quoted 0 quotes, List.append_nil]
    simp [Piece.ofText, nonempty]

end Pieces

section Endings

theorem isClosed_of_awaitsToken {line : List Char} (awaits : AwaitsToken line) :
    IsClosed line := by
  rcases awaits with rfl | ⟨front, closed, rfl⟩
  · rfl
  · exact (isClosed_append closed).mpr rfl

/-- At the end of a line a token is awaited, or a piece stands where one was. -/
theorem awaitsToken_or_exists_piece (line : List Char) :
    AwaitsToken line ∨
      ∃ front typed, line = front ++ typed ∧ AwaitsToken front ∧ IsPiece typed := by
  induction line using List.reverseRecOn with
  | nil => exact .inl (.inl rfl)
  | append_singleton front character ih =>
      by_cases separates : IsClosed front ∧ character = ' '
      · obtain ⟨closed, rfl⟩ := separates
        exact .inl (.inr ⟨front, closed, rfl⟩)
      · -- The character goes on with the piece at the end, or is one of its own.
        obtain ⟨before, typed, rfl, awaits, quotes⟩ :
            ∃ before typed, front = before ++ typed ∧ AwaitsToken before ∧
              QuotesSpaces typed := by
          rcases ih with awaits | ⟨before, typed, rfl, awaits, single⟩
          · exact ⟨front, [], by simp, awaits, by simp [QuotesSpaces]⟩
          · exact ⟨before, typed, rfl, awaits, (isPiece_iff.mp single).2⟩
        rw [isClosed_append (isClosed_of_awaitsToken awaits)] at separates
        refine .inr ⟨before, typed ++ [character], by simp, awaits, ?_⟩
        have inside : character = ' ' → ¬IsClosed typed := fun space closed =>
          separates ⟨closed, space⟩
        exact isPiece_iff.mpr ⟨by simp, quotesSpaces_concat quotes inside⟩

/-- Induction on what a line ends with. -/
@[elab_as_elim]
theorem line_induction {motive : List Char → Prop} (nil : motive [])
    (space : ∀ front, IsClosed front → motive front → motive (front ++ [' ']))
    (piece : ∀ front typed, AwaitsToken front → IsPiece typed → motive front →
      motive (front ++ typed))
    (line : List Char) : motive line := by
  induction size : line.length using Nat.strong_induction_on generalizing line with
  | h length ih =>
      subst size
      rcases awaitsToken_or_exists_piece line with
        (rfl | ⟨front, closed, rfl⟩) | ⟨front, typed, rfl, awaits, single⟩
      · exact nil
      · exact space front closed (ih _ (by simp) front rfl)
      · have typedPos := List.length_pos_of_ne_nil (isPiece_iff.mp single).1
        have shorter : front.length < (front ++ typed).length := by
          rw [List.length_append]
          omega
        exact piece front typed awaits single (ih _ shorter front rfl)

end Endings

/-- A character of the line, or its end, is at the byte offset. -/
def IsBoundary (line : List Char) (offset : Nat) : Prop :=
  ∃ front back, line = front ++ back ∧ byteLength front = offset

/-- The token stands in the line where it says. -/
def Token.IsPlacedIn (token : Token) (line : List Char) : Prop :=
  ∃ front back, line = front ++ (token.text ++ back) ∧ byteLength front = token.start

/-- The token takes up the byte at the offset. -/
def Token.Covers (token : Token) (offset : Nat) : Prop :=
  token.start ≤ offset ∧ offset < token.stop

/-- The tokens take up the line, in order and without loss: what is not theirs is spaces. -/
structure IsPartition (line : List Char) (tokens : List Token) : Prop where
  nonempty : ∀ token ∈ tokens, token.text ≠ []
  boundaries : ∀ token ∈ tokens, IsBoundary line token.start ∧ IsBoundary line token.stop
  slices : ∀ token ∈ tokens, slice token.start token.stop line = token.text
  apart : tokens.Pairwise fun left right => left.stop < right.start
  /-- A character that no token covers is a space. -/
  blank : ∀ front character back, line = front ++ character :: back →
    (∀ token ∈ tokens, ¬token.Covers (byteLength front)) → character = ' '
  quotesSpaces : ∀ token ∈ tokens, QuotesSpaces token.text
  /-- Only the last token can end inside quotes. -/
  closed : ∀ token ∈ tokens.dropLast, IsClosed token.text

section Placing

variable {line : List Char} {token : Token}

theorem Token.IsPlacedIn.append (placed : token.IsPlacedIn line) (more : List Char) :
    token.IsPlacedIn (line ++ more) := by
  obtain ⟨front, back, rfl, start⟩ := placed
  exact ⟨front, back ++ more, by simp, start⟩

theorem Token.IsPlacedIn.boundaries (placed : token.IsPlacedIn line) :
    IsBoundary line token.start ∧ IsBoundary line token.stop := by
  obtain ⟨front, back, rfl, start⟩ := placed
  refine ⟨⟨front, _, rfl, start⟩, ⟨front ++ token.text, back, by simp, ?_⟩⟩
  rw [byteLength_append, start, Token.stop]

theorem Token.IsPlacedIn.slice_eq (placed : token.IsPlacedIn line) :
    slice token.start token.stop line = token.text := by
  obtain ⟨front, back, rfl, start⟩ := placed
  rw [Token.stop, ← start, slice_append]

theorem quotesSpaces_of_mem_tokenize (member : token ∈ tokenize line) :
    token.text ≠ [] ∧ QuotesSpaces token.text := by
  obtain ⟨piece, inLine, before, rfl⟩ := exists_mem_of_mem_classifyAll member
  exact quotesSpaces_of_mem_split inLine

theorem isPlacedIn_of_mem_tokenize (line : List Char) :
    ∀ token ∈ tokenize line, token.IsPlacedIn line := by
  induction line using line_induction with
  | nil => simp [tokenize, split, cut, classifyAll]
  | space front closed ih =>
      rw [tokenize_concat_space closed]
      exact fun token member => (ih token member).append _
  | piece front typed awaits single ih =>
      rw [tokenize_append_piece awaits single]
      intro token member
      rcases List.mem_append.mp member with before | last
      · exact (ih token before).append _
      · obtain rfl := List.mem_singleton.mp last
        exact ⟨front, [], by simp, rfl⟩

theorem pairwise_tokenize (line : List Char) :
    (tokenize line).Pairwise fun left right => left.stop < right.start := by
  induction line using line_induction with
  | nil => exact .nil
  | space front closed ih => rwa [tokenize_concat_space closed]
  | piece front typed awaits single ih =>
      rw [tokenize_append_piece awaits single, List.pairwise_append]
      refine ⟨ih, List.pairwise_singleton _ _, ?_⟩
      intro left before right last
      obtain rfl := List.mem_singleton.mp last
      exact stop_lt_of_awaitsToken awaits before

/-- A character that no token covers separates tokens. -/
theorem eq_space_of_not_covers (line : List Char) :
    ∀ front character back, line = front ++ character :: back →
      (∀ token ∈ tokenize line, ¬token.Covers (byteLength front)) → character = ' ' := by
  induction line using line_induction with
  | nil => simp
  | space before closed ih =>
      rw [tokenize_concat_space closed]
      intro front character back cut uncovered
      rcases last_or_before_of_concat cut with ⟨-, space⟩ | ⟨rest, inside⟩
      · exact space.symm
      · exact ih front character rest inside uncovered
  | piece before typed awaits single ih =>
      rw [tokenize_append_piece awaits single]
      intro front character back cut uncovered
      rw [List.forall_mem_append, List.forall_mem_singleton] at uncovered
      obtain ⟨uncoveredBefore, uncoveredLast⟩ := uncovered
      rcases List.append_eq_append_iff.mp cut with ⟨inner, rfl, rest⟩ | ⟨inner, rfl, rest⟩
      · -- The character is one of the piece, so the token of the piece covers it.
        refine (uncoveredLast ⟨?_, ?_⟩).elim
        · simp
        · have positive := character.utf8Size_pos
          simp only [Token.stop, rest, byteLength_append, byteLength_cons]
          omega
      · cases inner with
        | nil =>
            refine (uncoveredLast ⟨by simp, ?_⟩).elim
            have positive := byteLength_pos_of_ne_nil (isPiece_iff.mp single).1
            simpa [Token.stop] using positive
        | cons first others =>
            obtain ⟨rfl, -⟩ := List.cons.inj rest
            exact ih front _ others rfl uncoveredBefore

/-- The tokens of a line that ends outside quotes are closed, and of any other line all but
the last. -/
theorem isClosed_of_mem_tokenize (line : List Char) :
    (IsClosed line → ∀ token ∈ tokenize line, IsClosed token.text) ∧
      ∀ token ∈ (tokenize line).dropLast, IsClosed token.text := by
  induction line using line_induction with
  | nil => simp [tokenize, split, cut, classifyAll]
  | space front closed ih =>
      rw [tokenize_concat_space closed]
      exact ⟨fun _ => ih.1 closed, ih.2⟩
  | piece front typed awaits single ih =>
      have closed := isClosed_of_awaitsToken awaits
      rw [tokenize_append_piece awaits single, List.dropLast_concat, isClosed_append closed]
      refine ⟨fun closedTyped => ?_, ih.1 closed⟩
      rw [List.forall_mem_append, List.forall_mem_singleton]
      exact ⟨ih.1 closed, closedTyped⟩

theorem isPartition_tokenize (line : List Char) : IsPartition line (tokenize line) where
  nonempty _ member := (quotesSpaces_of_mem_tokenize member).1
  boundaries token member := (isPlacedIn_of_mem_tokenize line token member).boundaries
  slices token member := (isPlacedIn_of_mem_tokenize line token member).slice_eq
  apart := pairwise_tokenize line
  blank := eq_space_of_not_covers line
  quotesSpaces _ member := (quotesSpaces_of_mem_tokenize member).2
  closed := (isClosed_of_mem_tokenize line).2

end Placing

/-- Of clauses that stand apart there is at most one more than of operators. -/
theorem Node.length_clauses_le : {nodes : List Node} → Alternating nodes →
    (nodes.filterMap clause?).length ≤ (nodes.filterMap operator?).length + 1
  | [], _ => by simp
  | .operator token :: rest, alternating => by
      have later := length_clauses_le alternating.of_cons
      simp only [List.filterMap_cons, clause?, operator?, List.length_cons]
      omega
  | [.clause body], _ => by simp [clause?]
  | .clause body :: .operator token :: rest, alternating => by
      have later := length_clauses_le alternating.of_cons.of_cons
      simp only [List.filterMap_cons, clause?, operator?, List.length_cons]
      omega
  | .clause left :: .clause right :: rest, alternating => by
      rcases (List.isChain_cons_cons.mp alternating).1 with isOperator | isOperator <;>
        cases isOperator

/-- Parsing cuts a line up without loss: the tokens of its nodes are those of the line and
take it up in order, clauses are not empty and hold no operators, and of two neighbours at
least one is an operator. -/
theorem parse_isPartition (line : List Char) :
    (parse line).tokens = tokenize line ∧
      IsPartition line (parse line).tokens ∧
      (∀ node ∈ (parse line).nodes, node.IsProper) ∧
      Node.Alternating (parse line).nodes ∧
      (parse line).clauses.length ≤ (parse line).operators.length + 1 := by
  have alternating := alternating_nodes line
  refine ⟨tokens_parse line, ?_, isProper_nodes line, alternating, ?_⟩
  · rw [tokens_parse]
    exact isPartition_tokenize line
  · exact Node.length_clauses_le alternating

example : (tokenize "né  \"b c".toList).map (fun token => (token.start, token.stop)) =
    [(0, 3), (5, 9)] := by decide

end OperatorShell.Line
