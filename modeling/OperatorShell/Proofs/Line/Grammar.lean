import Mathlib.Computability.RegularExpressions
import OperatorShell.Proofs.Line.NormalForm

/-!
# The grammar of commands

The kinds in a clause make up a regular language: the words of a path, then options, each a
key with maybe a value and arguments behind the value.  Classification sees only the kind
before a text, so the language is followed one kind at a time: for each kind there is an
expression of what can stand behind it.
-/

namespace OperatorShell.Line

theorem Connective.isSome_ofText?_iff {text : List Char} :
    (ofText? text).isSome = true ↔ text = ['&', '&'] ∨ text = ['|', '|'] := by
  rw [ofText?]
  split
  · simp [*]
  · split <;> simp [*]

namespace Kind

open RegularExpression (char)

/-- An option: a key, and maybe a value with arguments behind it. -/
def optionGrammar : RegularExpression Kind :=
  (char (.key .full) + char (.key .short)) * (1 + char .value * (char .argument).star)

/-- A command: one word or more, and options. -/
def commandGrammar : RegularExpression Kind :=
  char .word * (char .word).star * optionGrammar.star

/-- What a command goes on with behind a kind, or how it starts where none is before. -/
def grammarBehind : Option Kind → RegularExpression Kind
  | none | some (.operator _) => commandGrammar
  | some .word => (char .word).star * optionGrammar.star
  | some (.key _) => (1 + char .value * (char .argument).star) * optionGrammar.star
  | some .value | some .argument => (char .argument).star * optionGrammar.star

/-- The kind before is one of the same command. -/
def IsInside (previous : Option Kind) : Prop :=
  ∃ before ∈ previous, before.isOperator = false

/-- The kind can stand behind the other: it is that of an ordinary text there, or that of a
key inside a command. -/
def Follows (previous : Option Kind) (kind : Kind) : Prop :=
  kind = following previous ∨ kind.isKey = true ∧ IsInside previous

/-- The expression of a command is that of what starts behind nothing. -/
theorem grammarBehind_none : grammarBehind none = commandGrammar := rfl

theorem isOperator_iff {kind : Kind} :
    kind.isOperator = true ↔ ∃ connective, kind = .operator connective := by
  cases kind <;> simp [isOperator]

theorem isKey_iff {kind : Kind} : kind.isKey = true ↔ ∃ style, kind = .key style := by
  cases kind <;> simp [isKey]

section Language

variable {previous : Option Kind} {kind : Kind} {rest : List Kind}

theorem cons_mem_matches'_iff (expression : RegularExpression Kind) :
    kind :: rest ∈ expression.matches' ↔ rest ∈ (expression.deriv kind).matches' := by
  rw [← RegularExpression.rmatch_iff_matches', ← RegularExpression.rmatch_iff_matches',
    RegularExpression.rmatch]

/-- The expressions are followed kind by kind. -/
theorem cons_mem_grammarBehind_iff :
    kind :: rest ∈ (grammarBehind previous).matches' ↔
      Follows previous kind ∧ rest ∈ (grammarBehind (some kind)).matches' := by
  -- For any two kinds the derivative of the one expression is the other, or empty.
  rw [cons_mem_matches'_iff]
  rcases previous with _ | ⟨connective⟩ | _ | _ | ⟨⟨⟩⟩ | _ <;>
    rcases kind with connective | _ | _ | ⟨⟨⟩⟩ | _ <;>
      simp [grammarBehind, commandGrammar, optionGrammar, RegularExpression.deriv,
        RegularExpression.matchEpsilon, Follows, following, IsInside, isKey, isOperator]

/-- A command can end behind each of its kinds. -/
theorem nil_mem_grammarBehind (inside : IsInside previous) :
    [] ∈ (grammarBehind previous).matches' := by
  obtain ⟨before, rfl, plain⟩ := inside
  rw [← RegularExpression.rmatch_iff_matches']
  cases before with
  | operator connective => cases plain
  | word | argument | key style | value => rfl

theorem isOperator_of_follows (follows : Follows previous kind) : kind.isOperator = false := by
  rcases follows with rfl | ⟨isKey, -⟩
  · exact isOperator_following previous
  · obtain ⟨style, rfl⟩ := isKey_iff.mp isKey
    rfl

theorem isInside_of_follows (follows : Follows previous kind) : IsInside (some kind) :=
  ⟨kind, rfl, isOperator_of_follows follows⟩

/-- A command holds no operators. -/
theorem isOperator_of_mem_grammarBehind {kinds : List Kind}
    (matched : kinds ∈ (grammarBehind previous).matches') :
    ∀ kind ∈ kinds, kind.isOperator = false := by
  induction kinds generalizing previous with
  | nil => simp
  | cons kind rest ih =>
      obtain ⟨follows, later⟩ := cons_mem_grammarBehind_iff.mp matched
      rw [List.forall_mem_cons]
      exact ⟨isOperator_of_follows follows, ih later⟩

theorem ne_nil_of_mem_commandGrammar {kinds : List Kind}
    (matched : kinds ∈ commandGrammar.matches') : kinds ≠ [] := by
  rintro rfl
  rw [← RegularExpression.rmatch_iff_matches'] at matched
  cases matched

/-- No word stands behind anything but words. -/
theorem ne_word_of_mem_grammarBehind {kinds : List Kind} (apart : kind ≠ .word)
    (inside : IsInside (some kind)) (matched : kinds ∈ (grammarBehind (some kind)).matches') :
    ∀ other ∈ kinds, other ≠ .word := by
  induction kinds generalizing kind with
  | nil => simp
  | cons next rest ih =>
      obtain ⟨follows, later⟩ := cons_mem_grammarBehind_iff.mp matched
      have nextApart : next ≠ .word := by
        rintro rfl
        obtain ⟨before, same, plain⟩ := inside
        obtain rfl := Option.mem_some_iff.mp same
        rcases follows with isWord | ⟨isKey, -⟩
        · cases kind <;> simp [following, isOperator] at isWord apart plain
        · cases isKey
      rw [List.forall_mem_cons]
      exact ⟨nextApart, ih nextApart (isInside_of_follows follows) later⟩

end Language

section Texts

variable {text : List Char} {previous : Option Kind} {kind : Kind}

/-- What is no operator gets a kind that can stand there. -/
theorem follows_classify (noOperator : Connective.ofText? text = none)
    (previous : Option Kind) : Follows previous (classify text previous) := by
  by_cases ordinary : IsOrdinary text
  · exact .inl (classify_of_isOrdinary ordinary previous)
  · have dash : text.head? = some '-' := by
      by_contra noDash
      exact ordinary ⟨noDash, noOperator⟩
    cases previous with
    | none => exact .inl (by simp [classify, noOperator, following])
    | some before =>
        cases inside : before.isOperator with
        | true =>
            obtain ⟨connective, rfl⟩ := isOperator_iff.mp inside
            exact .inl (by simp [classify, noOperator, following])
        | false =>
            obtain ⟨style, isKey⟩ := exists_classify_of_dash dash inside
            rw [isKey]
            exact .inr ⟨rfl, before, rfl, inside⟩

/-- A key starts with a dash, and with two of them if it is spelt in full. -/
theorem dash_of_classify {style : KeyStyle} (isKey : classify text previous = .key style) :
    text.head? = some '-' ∧ (style = .full ↔ ['-', '-'] <+: text) := by
  revert isKey
  fun_cases classify text previous with
  | case4 =>
      rintro ⟨⟩
      simp
  | case5 before plain rest single =>
      rintro ⟨⟩
      constructor
      · rfl
      · constructor
        · intro isFull
          cases isFull
        · rintro ⟨more, same⟩
          exact (single more (List.cons.inj same).2.symm).elim
  | _ =>
      intro isKey
      cases isKey

theorem no_dash_of_classify
    (isValue : classify text previous = .value ∨ classify text previous = .argument) :
    text.head? ≠ some '-' := by
  intro dash
  obtain ⟨rest, same⟩ := List.head?_eq_some_iff.mp dash
  revert isValue
  fun_cases classify text previous with
  | case6 | case8 =>
      rename_i noDash
      exact (noDash rest same).elim
  | _ => simp

/-- Inside a command the keys are the texts with a dash in front. -/
theorem isKey_classify_iff (inside : IsInside previous) :
    (classify text previous).isKey = true ↔ text.head? = some '-' := by
  constructor
  · intro isKey
    obtain ⟨style, kind⟩ := isKey_iff.mp isKey
    exact (dash_of_classify kind).1
  · intro dash
    obtain ⟨before, rfl, plain⟩ := inside
    obtain ⟨style, isKey⟩ := exists_classify_of_dash dash plain
    rw [isKey]
    rfl

/-- A text that gets the kind wherever the kind can stand. -/
def sample : Kind → List Char
  | .operator connective => connective.text
  | .key .full => ['-', '-', 'a']
  | .key .short => ['-', 'a']
  | .word | .argument | .value => ['a']

theorem classify_sample (follows : Follows previous kind) :
    classify kind.sample previous = kind := by
  rcases follows with rfl | ⟨isKey, before, rfl, plain⟩
  · have ordinary : IsOrdinary (following previous).sample := by
      fun_cases following previous <;> decide
    exact classify_of_isOrdinary ordinary previous
  · obtain ⟨style, rfl⟩ := isKey_iff.mp isKey
    cases before with
    | operator connective => cases plain
    | word | argument | key | value => cases style <;> rfl

theorem isPiece_sample (kind : Kind) : IsPiece kind.sample := by
  rcases kind with ⟨⟨⟩⟩ | _ | _ | ⟨⟨⟩⟩ | _ <;> decide

theorem isClosed_sample (kind : Kind) : IsClosed kind.sample := by
  rcases kind with ⟨⟨⟩⟩ | _ | _ | ⟨⟨⟩⟩ | _ <;> decide

end Texts

end Kind

open Kind

section Classified

variable {previous : Option Kind} {pieces : List Piece}

/-- Pieces without an operator are classified as the grammar says. -/
theorem map_kind_classifyAll_mem (inside : IsInside previous)
    (plain : ∀ piece ∈ pieces, Connective.ofText? piece.text = none) :
    (classifyAll previous pieces).map Token.kind ∈ (grammarBehind previous).matches' := by
  induction pieces generalizing previous with
  | nil => exact nil_mem_grammarBehind inside
  | cons piece rest ih =>
      obtain ⟨here, later⟩ := List.forall_mem_cons.mp plain
      have follows := follows_classify here previous
      apply cons_mem_grammarBehind_iff.mpr
      constructor
      · exact follows
      · exact ih (isInside_of_follows follows) later

theorem isKey_iff_of_mem_classifyAll (inside : IsInside previous)
    (plain : ∀ piece ∈ pieces, Connective.ofText? piece.text = none) :
    ∀ token ∈ classifyAll previous pieces,
      token.kind.isKey = true ↔ token.text.head? = some '-' := by
  induction pieces generalizing previous with
  | nil => simp [classifyAll]
  | cons piece rest ih =>
      obtain ⟨here, later⟩ := List.forall_mem_cons.mp plain
      rw [classifyAll, List.forall_mem_cons]
      constructor
      · exact isKey_classify_iff inside
      · exact ih (isInside_of_follows (follows_classify here previous)) later

/-- What the grammar allows is what samples of the kinds are classified as. -/
theorem map_kind_classifyAll_of_sample {kinds : List Kind}
    (matched : kinds ∈ (grammarBehind previous).matches')
    (texts : pieces.map Piece.text = kinds.map sample) :
    (classifyAll previous pieces).map Token.kind = kinds := by
  induction kinds generalizing previous pieces with
  | nil =>
      obtain rfl : pieces = [] := by simpa using texts
      rfl
  | cons kind rest ih =>
      obtain ⟨follows, later⟩ := cons_mem_grammarBehind_iff.mp matched
      cases pieces with
      | nil => cases texts
      | cons piece others =>
          obtain ⟨text, texts⟩ := List.cons.inj texts
          simp [classifyAll, text, classify_sample follows, ih later texts]

/-- Part of what is classified is classified from the kind in front of it on. -/
theorem exists_of_classifyAll_eq_append {left right : List Token}
    (cut : classifyAll previous pieces = left ++ right) :
    ∃ front back, pieces = front ++ back ∧ left = classifyAll previous front ∧
      right = classifyAll ((left.getLast?.map Token.kind).or previous) back := by
  induction left generalizing previous pieces with
  | nil => exact ⟨[], pieces, rfl, rfl, cut.symm⟩
  | cons token left ih =>
      cases pieces with
      | nil => cases cut
      | cons piece rest =>
          obtain ⟨rfl, later⟩ := List.cons.inj cut
          obtain ⟨front, back, rfl, same, behind⟩ := ih later
          refine ⟨piece :: front, back, rfl, ?_, ?_⟩
          · rw [classifyAll, same]
          · rw [behind, List.getLast?_cons]
            cases left.getLast? <;> rfl

theorem ofText?_eq_none_of_plain
    (plain : ∀ token ∈ classifyAll previous pieces, token.kind.isOperator = false) :
    ∀ piece ∈ pieces, Connective.ofText? piece.text = none := by
  intro piece member
  have named : piece.text ∈ (classifyAll previous pieces).map Token.text := by
    rw [map_text_classifyAll]
    exact List.mem_map_of_mem member
  obtain ⟨token, inside, text⟩ := List.mem_map.mp named
  obtain ⟨other, -, before, rfl⟩ := exists_mem_of_mem_classifyAll inside
  have plainHere := plain _ inside
  rw [isOperator_classify] at plainHere
  rw [← text]
  simpa using plainHere

end Classified

theorem mem_clauses_iff {line : Line} {body : Clause} :
    body ∈ line.clauses ↔ .clause body ∈ line.nodes := by
  rw [clauses, List.mem_filterMap]
  constructor
  · rintro ⟨node, member, same⟩
    cases node with
    | clause other =>
        obtain rfl := Option.some.inj same
        exact member
    | operator token => cases same
  · intro member
    exact ⟨_, member, rfl⟩

/-- A clause holds a stretch of the pieces of its line, classified as if the line started
with them. -/
theorem exists_split_of_mem_clauses {line : List Char} {body : Clause}
    (member : body ∈ (parse line).clauses) :
    ∃ front first rest back, split line = front ++ (first :: rest ++ back) ∧
      body.tokens = classifyAll none (first :: rest) ∧
      ∀ piece ∈ first :: rest, Connective.ofText? piece.text = none := by
  rw [mem_clauses_iff] at member
  obtain ⟨nonempty, plain⟩ := isProper_nodes line _ member
  obtain ⟨before, behind, tokens_eq, apart⟩ := Node.exists_append_of_mem_group member
  obtain ⟨front, pieces, split_eq, -, fromClause⟩ := exists_of_classifyAll_eq_append tokens_eq
  have anew : body.tokens ++ behind = classifyAll none pieces := by
    rw [fromClause]
    cases last : before.getLast? with
    | none => rfl
    | some token =>
        obtain ⟨connective, kind⟩ := isOperator_iff.mp (apart token last)
        simp [kind, classifyAll_operator]
  obtain ⟨own, back, rfl, same, -⟩ := exists_of_classifyAll_eq_append anew.symm
  cases own with
  | nil => exact (nonempty same).elim
  | cons first rest =>
      rw [same] at plain
      exact ⟨front, first, rest, back, split_eq, same, ofText?_eq_none_of_plain plain⟩

/-- The positional tokens in front of the first key are the words. -/
theorem takeWhile_isPositional {tokens : List Token}
    (matched : tokens.map Token.kind ∈ (grammarBehind (some .word)).matches') :
    tokens.takeWhile Token.isPositional = tokens.filter (·.kind = .word) := by
  induction tokens with
  | nil => rfl
  | cons token rest ih =>
      obtain ⟨follows, later⟩ := cons_mem_grammarBehind_iff.mp matched
      rcases follows with isWord | ⟨isKey, -⟩
      · rw [isWord] at later
        simp [Token.isPositional, isWord, following, isPositional, ih later]
      · obtain ⟨style, kind⟩ := isKey_iff.mp isKey
        rw [kind] at later
        have wordless := ne_word_of_mem_grammarBehind (by simp) ⟨_, rfl, rfl⟩ later
        rw [List.forall_mem_map] at wordless
        simpa [Token.isPositional, kind, isPositional] using wordless

namespace Clause

/-- The clause is spelt as a command: its kinds are those of the grammar, dashes stand in
front of its keys only, and its path is made up of its words. -/
structure IsCommand (clause : Clause) : Prop where
  kinds : clause.tokens.map Token.kind ∈ commandGrammar.matches'
  keys : ∀ token ∈ clause.tokens, ∀ style, token.kind = .key style →
    token.text.head? = some '-' ∧ (style = .full ↔ ['-', '-'] <+: token.text)
  values : ∀ token ∈ clause.tokens, token.kind = .value ∨ token.kind = .argument →
    token.text.head? ≠ some '-'
  /-- The first word can be any text. -/
  words : ∀ token ∈ clause.tokens.tail, token.kind = .word → token.text.head? ≠ some '-'
  leadingWords_eq : clause.leadingWords =
    (clause.tokens.filter (·.kind = .word)).map fun token => String.ofList token.value
  leadingWords_ne_nil : clause.leadingWords ≠ []

theorem isCommand_of_mem_clauses {line : List Char} {body : Clause}
    (member : body ∈ (parse line).clauses) : body.IsCommand := by
  obtain ⟨-, first, rest, -, -, same, plain⟩ := exists_split_of_mem_clauses member
  obtain ⟨plainFirst, plainRest⟩ := List.forall_mem_cons.mp plain
  have isWord : classify first.text none = .word := by simp [classify, plainFirst]
  have inside : IsInside (some .word) := ⟨_, rfl, rfl⟩
  have tokens_eq : body.tokens =
      ⟨first.start, first.text, .word⟩ :: classifyAll (some .word) rest := by
    rw [same, classifyAll, isWord]
  have behind := map_kind_classifyAll_mem inside plainRest
  have path : body.tokens.takeWhile Token.isPositional =
      body.tokens.filter (·.kind = .word) := by
    rw [tokens_eq, List.takeWhile_cons_of_pos rfl, List.filter_cons_of_pos (by simp),
      takeWhile_isPositional behind]
  constructor
  · rw [tokens_eq, List.map_cons, ← grammarBehind_none, cons_mem_grammarBehind_iff]
    exact ⟨.inl rfl, behind⟩
  · intro token member style isKey
    rw [same] at member
    obtain ⟨piece, -, before, rfl⟩ := exists_mem_of_mem_classifyAll member
    exact dash_of_classify isKey
  · intro token member isValue
    rw [same] at member
    obtain ⟨piece, -, before, rfl⟩ := exists_mem_of_mem_classifyAll member
    exact no_dash_of_classify isValue
  · intro token member isWord dash
    rw [tokens_eq] at member
    have isKey := (isKey_iff_of_mem_classifyAll inside plainRest token member).mpr dash
    rw [isWord] at isKey
    cases isKey
  · rw [leadingWords, path]
  · simp [leadingWords, tokens_eq, Token.isPositional, isPositional]

end Clause

/-- What the grammar allows is written as a line of one clause. -/
theorem exists_line_of_mem_commandGrammar {kinds : List Kind}
    (matched : kinds ∈ commandGrammar.matches') :
    ∃ line body, (parse line).nodes = [.clause body] ∧ body.tokens.map Token.kind = kinds := by
  let line := [' '].intercalate (kinds.map sample)
  have texts : (split line).map Piece.text = kinds.map sample := by
    apply map_text_split_intercalate
    · rw [List.forall_mem_map]
      intro kind _
      exact isPiece_sample kind
    · rw [← List.map_dropLast, List.forall_mem_map]
      intro kind _
      exact isClosed_sample kind
  have nonempty := ne_nil_of_mem_commandGrammar matched
  rw [← grammarBehind_none] at matched
  have read : (tokenize line).map Token.kind = kinds :=
    map_kind_classifyAll_of_sample matched texts
  have plain := isOperator_of_mem_grammarBehind matched
  rw [← read, List.forall_mem_map] at plain
  cases tokens_eq : tokenize line with
  | nil => simp [← read, tokens_eq] at nonempty
  | cons token rest =>
      rw [tokens_eq] at plain read
      refine ⟨line, ⟨token :: rest⟩, ?_, read⟩
      rw [parse, tokens_eq, Node.group_of_plain plain]

/-- The kinds in a clause are the words of the command grammar, each clause is spelt
accordingly, and the operators are the tokens with the text of one; and every word of the
grammar is that of some line. -/
theorem parse_commandGrammar :
    (∀ line, (∀ clause ∈ (parse line).clauses, clause.IsCommand) ∧
      ∀ token ∈ (parse line).tokens,
        token.kind.isOperator = true ↔ token.text = ['&', '&'] ∨ token.text = ['|', '|']) ∧
    ∀ kinds ∈ commandGrammar.matches',
      ∃ line body, (parse line).nodes = [.clause body] ∧
        body.tokens.map Token.kind = kinds := by
  refine ⟨fun line => ⟨?_, ?_⟩, ?_⟩
  · intro clause member
    exact Clause.isCommand_of_mem_clauses member
  · intro token member
    rw [tokens_parse] at member
    obtain ⟨piece, -, before, rfl⟩ := exists_mem_of_mem_classifyAll member
    rw [isOperator_classify, Connective.isSome_ofText?_iff]
  · intro kinds matched
    exact exists_line_of_mem_commandGrammar matched

example : commandGrammar.rmatch [.word, .key .full, .value, .argument] = true := rfl

end OperatorShell.Line
