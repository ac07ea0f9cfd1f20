import OperatorShell.Proofs.Line.Nodes
import OperatorShell.Proofs.Line.Splitting

/-!
# Tokens of joined texts

The kind of a token depends on its text and on the kind before it, so what is written
behind a closed text is classified from the last kind of that text on, and behind an
operator as at the start of a line.  Grouping breaks at operators: the last clause holds
the tokens behind the last of them.
-/

namespace OperatorShell.Line

open OperatorShell.Text

/-- Wherever it stands, the text is no operator and no key, except at the start of a
command, where any text is a word. -/
def IsOrdinary (text : List Char) : Prop :=
  text.head? ≠ some '-' ∧ Connective.ofText? text = none

instance (text : List Char) : Decidable (IsOrdinary text) :=
  inferInstanceAs (Decidable (_ ∧ _))

namespace Kind

/-- The kind of an ordinary text behind another kind. -/
def following : Option Kind → Kind
  | none | some (.operator _) | some .word => .word
  | some (.key _) => .value
  | some .argument | some .value => .argument

theorem classify_of_isOrdinary {text : List Char} (ordinary : IsOrdinary text)
    (previous : Option Kind) : classify text previous = following previous := by
  obtain ⟨noKey, noOperator⟩ := ordinary
  have noDash : ∀ rest, text ≠ '-' :: rest := by
    rintro rest rfl
    exact noKey rfl
  cases previous with
  | none => simp [classify, noOperator, following]
  | some previous =>
      rw [classify.eq_def, noOperator]
      cases previous <;> simp [following, noDash]

theorem isOperator_following (previous : Option Kind) :
    (following previous).isOperator = false := by
  fun_cases following previous <;> rfl

theorem isKey_following (previous : Option Kind) : (following previous).isKey = false := by
  fun_cases following previous <;> rfl

/-- Inside a command a dash makes a key. -/
theorem exists_classify_of_dash {text : List Char} (dash : text.head? = some '-')
    {previous : Kind} (inside : previous.isOperator = false) :
    ∃ style, classify text (some previous) = .key style := by
  obtain ⟨rest, rfl⟩ := List.head?_eq_some_iff.mp dash
  have noOperator : Connective.ofText? ('-' :: rest) = none := by simp [Connective.ofText?]
  rw [classify.eq_def, noOperator]
  cases previous with
  | operator connective => cases inside
  | word | argument | key style | value =>
      rcases rest with _ | ⟨second, rest⟩
      · exact ⟨.short, rfl⟩
      · by_cases full : second = '-'
        · subst full
          exact ⟨.full, rfl⟩
        · exact ⟨.short, by simp [full]⟩

@[simp] theorem classify_text (connective : Connective) (previous : Option Kind) :
    classify connective.text previous = .operator connective := by
  simp [classify]

/-- Behind an operator a text starts anew. -/
theorem classify_operator (text : List Char) (connective : Connective) :
    classify text (some (.operator connective)) = classify text none := rfl

/-- Only the text of an operator is one. -/
theorem isOperator_classify (text : List Char) (previous : Option Kind) :
    (classify text previous).isOperator = (Connective.ofText? text).isSome := by
  cases read : Connective.ofText? text with
  | some connective => simp [classify, read, isOperator]
  | none =>
      fun_cases classify text previous <;> simp_all [isOperator]

end Kind

@[simp] theorem byteLength_text (connective : Connective) : byteLength connective.text = 2 := by
  cases connective <;> decide

namespace Token

@[simp] theorem kind_shift (distance : Nat) (token : Token) :
    (token.shift distance).kind = token.kind := rfl

@[simp] theorem stop_shift (distance : Nat) (token : Token) :
    (token.shift distance).stop = token.stop + distance :=
  Nat.add_right_comm _ _ _

end Token

section Classifying

variable {front back : List Char}

theorem classifyAll_append (previous : Option Kind) (left right : List Piece) :
    classifyAll previous (left ++ right) =
      classifyAll previous left ++
        classifyAll (((classifyAll previous left).getLast?.map Token.kind).or previous)
          right := by
  induction left generalizing previous with
  | nil => rfl
  | cons piece rest ih =>
      simp only [List.cons_append, classifyAll, ih, List.getLast?_cons]
      cases (classifyAll (some (Kind.classify piece.text previous)) rest).getLast? <;> rfl

theorem classifyAll_shift (distance : Nat) (previous : Option Kind) (pieces : List Piece) :
    classifyAll previous (pieces.map (Piece.shift distance)) =
      (classifyAll previous pieces).map (Token.shift distance) := by
  induction pieces generalizing previous with
  | nil => rfl
  | cons piece rest ih => simp [classifyAll, ih, Token.shift, Piece.shift]

/-- Behind an operator tokens are classified as at the start of a line. -/
theorem classifyAll_operator (connective : Connective) (pieces : List Piece) :
    classifyAll (some (.operator connective)) pieces = classifyAll none pieces := by
  cases pieces with
  | nil => rfl
  | cons piece rest => simp only [classifyAll, Kind.classify_operator]

theorem tokenize_append_space (closed : IsClosed front) (back : List Char) :
    tokenize (front ++ ' ' :: back) =
      tokenize front ++
        classifyAll ((tokenize front).getLast?.map Token.kind)
          ((split back).map (Piece.shift (byteLength front + 1))) := by
  rw [tokenize, split_append_space closed, classifyAll_append]
  simp [tokenize]

theorem tokenize_concat_space (closed : IsClosed front) :
    tokenize (front ++ [' ']) = tokenize front := by
  rw [tokenize, split_concat_space closed, tokenize]

/-- An operator between spaces is an operator, and the line starts anew behind it. -/
theorem tokenize_append_operator (closed : IsClosed front) (connective : Connective)
    (back : List Char) :
    tokenize (front ++ ' ' :: (connective.text ++ ' ' :: back)) =
      tokenize front ++
        ⟨byteLength front + 1, connective.text, .operator connective⟩ ::
          (tokenize back).map (Token.shift (byteLength front + 4)) := by
  have single : IsPiece connective.text := by cases connective <;> decide
  have closedText : IsClosed connective.text := by cases connective <;> decide
  have distance : 2 + 1 + (byteLength front + 1) = byteLength front + 4 := by omega
  rw [IsPiece] at single
  rw [tokenize_append_space closed, split_append_space closedText, single, byteLength_text,
    List.map_append, Piece.map_shift_map_shift, distance]
  simp [classifyAll, Piece.shift, classifyAll_operator, classifyAll_shift, tokenize]

theorem exists_mem_of_mem_classifyAll {previous : Option Kind} {pieces : List Piece}
    {token : Token} (member : token ∈ classifyAll previous pieces) :
    ∃ piece ∈ pieces, ∃ before,
      token = ⟨piece.start, piece.text, Kind.classify piece.text before⟩ := by
  induction pieces generalizing previous with
  | nil => cases member
  | cons piece rest ih =>
      rcases List.mem_cons.mp member with rfl | later
      · exact ⟨piece, List.mem_cons_self, previous, rfl⟩
      · obtain ⟨other, inRest, same⟩ := ih later
        exact ⟨other, List.mem_cons_of_mem _ inRest, same⟩

/-- Tokens of pieces that are no operators are none. -/
theorem isOperator_of_mem_classifyAll {previous : Option Kind} {pieces : List Piece}
    (noOperator : ∀ piece ∈ pieces, Connective.ofText? piece.text = none) {token : Token}
    (member : token ∈ classifyAll previous pieces) : token.kind.isOperator = false := by
  obtain ⟨piece, given, before, rfl⟩ := exists_mem_of_mem_classifyAll member
  rw [Kind.isOperator_classify, noOperator piece given, Option.isSome_none]

/-- Tokens stay within the text. -/
theorem stop_le_of_mem_tokenize {token : Token} (member : token ∈ tokenize front) :
    token.stop ≤ byteLength front := by
  obtain ⟨piece, inLine, before, rfl⟩ := exists_mem_of_mem_classifyAll member
  exact stop_le_of_mem_split inLine

/-- The line is empty, or it ends with a space outside quotes. -/
def AwaitsToken (line : List Char) : Prop :=
  line = [] ∨ ∃ front, IsClosed front ∧ line = front ++ [' ']

/-- Where a token is awaited, a piece is cut off as the last one. -/
theorem split_append_piece {line typed : List Char} (awaits : AwaitsToken line)
    (single : IsPiece typed) :
    split (line ++ typed) = split line ++ [⟨byteLength line, typed⟩] := by
  rw [IsPiece] at single
  rcases awaits with rfl | ⟨front, closed, rfl⟩
  · rw [List.nil_append, single]
    rfl
  · have width : byteLength [' '] = 1 := rfl
    rw [List.append_assoc, List.singleton_append, split_append_space closed,
      split_concat_space closed, single]
    simp [Piece.shift, width]

/-- Where a token is awaited, a piece is that token. -/
theorem tokenize_append_piece {line typed : List Char} (awaits : AwaitsToken line)
    (single : IsPiece typed) :
    tokenize (line ++ typed) =
      tokenize line ++
        [⟨byteLength line, typed,
          Kind.classify typed ((tokenize line).getLast?.map Token.kind)⟩] := by
  rw [tokenize, split_append_piece awaits single, classifyAll_append]
  simp [tokenize, classifyAll]

/-- Where a token is awaited, all tokens have ended. -/
theorem stop_lt_of_awaitsToken {line : List Char} (awaits : AwaitsToken line) {token : Token}
    (member : token ∈ tokenize line) : token.stop < byteLength line := by
  rcases awaits with rfl | ⟨front, closed, rfl⟩
  · cases member
  · rw [tokenize_concat_space closed] at member
    have within := stop_le_of_mem_tokenize member
    have width : byteLength [' '] = 1 := rfl
    rw [byteLength_append]
    omega

end Classifying

namespace Node

/-- An operator closes off what is grouped in front of it. -/
theorem prepend_append_operator (token operator : Token) (nodes rest : List Node) :
    prepend token (nodes ++ .operator operator :: rest) =
      prepend token nodes ++ .operator operator :: rest := by
  cases nodes with
  | nil => cases here : token.kind.isOperator <;> simp [prepend, here]
  | cons node nodes =>
      cases node <;> cases here : token.kind.isOperator <;> simp [prepend, here]

theorem group_append_operator {operator : Token}
    (isOperator : operator.kind.isOperator = true) (left right : List Token) :
    group (left ++ operator :: right) = group left ++ .operator operator :: group right := by
  induction left with
  | nil => simp [group, prepend, isOperator]
  | cons token left ih =>
      rw [List.cons_append, group, List.foldr_cons, ← group, ih, prepend_append_operator]
      rfl

/-- Tokens without an operator make up one clause. -/
theorem group_of_plain {token : Token} {rest : List Token}
    (plain : ∀ other ∈ token :: rest, other.kind.isOperator = false) :
    group (token :: rest) = [.clause ⟨token :: rest⟩] := by
  induction rest generalizing token with
  | nil => simp [group, prepend, plain token]
  | cons next rest ih =>
      obtain ⟨here, later⟩ := List.forall_mem_cons.mp plain
      rw [group, List.foldr_cons, ← group, ih later, prepend, here]
      rfl

/-- The tokens of the clause that the nodes end with. -/
def lastTokens (nodes : List Node) : List Token :=
  match nodes.getLast? with
  | some (.clause body) => body.tokens
  | some (.operator _) | none => []

section LastTokens

variable {tokens front back : List Token} {token : Token}

theorem lastTokens_group_of_plain (plain : ∀ token ∈ tokens, token.kind.isOperator = false) :
    lastTokens (group tokens) = tokens := by
  cases tokens with
  | nil => rfl
  | cons token rest => rw [group_of_plain plain]; rfl

theorem lastTokens_group_append (isOperator : token.kind.isOperator = true)
    (plain : ∀ other ∈ back, other.kind.isOperator = false) :
    lastTokens (group (front ++ token :: back)) = back := by
  rw [group_append_operator isOperator]
  cases back with
  | nil => simp [lastTokens, group]
  | cons next rest => simp [lastTokens, group_of_plain plain]

/-- Tokens hold no operator, or one of them is the last that is one. -/
theorem plain_or_exists_last_operator (tokens : List Token) :
    (∀ token ∈ tokens, token.kind.isOperator = false) ∨
      ∃ front operator back, tokens = front ++ operator :: back ∧
        operator.kind.isOperator = true ∧
        ∀ token ∈ back, token.kind.isOperator = false := by
  induction tokens with
  | nil => exact .inl (by simp)
  | cons token rest ih =>
      rcases ih with plain | ⟨front, operator, back, rfl, isOperator, plain⟩
      · cases here : token.kind.isOperator with
        | false => exact .inl (List.forall_mem_cons.mpr ⟨here, plain⟩)
        | true => exact .inr ⟨[], token, rest, rfl, here, plain⟩
      · exact .inr ⟨token :: front, operator, back, rfl, isOperator, plain⟩

/-- A token that is no operator joins the last clause. -/
theorem lastTokens_group_concat (plain : token.kind.isOperator = false) :
    lastTokens (group (tokens ++ [token])) = lastTokens (group tokens) ++ [token] := by
  rcases plain_or_exists_last_operator tokens with
    others | ⟨front, operator, back, rfl, isOperator, others⟩
  · rw [lastTokens_group_of_plain others, lastTokens_group_of_plain]
    simpa [or_imp, forall_and] using ⟨others, plain⟩
  · rw [lastTokens_group_append isOperator others, List.append_assoc, List.cons_append,
      lastTokens_group_append isOperator]
    simpa [or_imp, forall_and] using ⟨others, plain⟩

/-- The last clause ends where the tokens do, unless they end with an operator. -/
theorem getLast?_lastTokens (tokens : List Token) :
    (lastTokens (group tokens)).getLast? =
      tokens.getLast?.filter (!·.kind.isOperator) := by
  rcases plain_or_exists_last_operator tokens with
    plain | ⟨front, operator, back, rfl, isOperator, plain⟩
  · rw [lastTokens_group_of_plain plain]
    cases last : tokens.getLast? with
    | none => rfl
    | some token => simp [Option.filter_some, plain token (List.mem_of_getLast? last)]
  · rw [lastTokens_group_append isOperator plain]
    cases last : back.getLast? with
    | none => simp [List.getLast?_cons, last, Option.filter_some, isOperator]
    | some token =>
        simp [List.getLast?_cons, last, Option.filter_some,
          plain token (List.mem_of_getLast? last)]

end LastTokens

end Node

end OperatorShell.Line
