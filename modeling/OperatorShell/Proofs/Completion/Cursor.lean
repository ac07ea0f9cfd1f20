import OperatorShell.Command.Completion
import OperatorShell.Proofs.Command.Registration
import OperatorShell.Proofs.Command.Resolving
import OperatorShell.Proofs.Line.Tokens

/-!
# What completion looks at

Of a line that does not stop in an operator, completion uses the tokens of the last clause
only: those that are finished and the one that is being typed.  The line itself is passed
on to a provider, so where no provider looks at it the answer depends on nothing else.
-/

namespace OperatorShell.Command

open Line Text

variable {σ : Type}

/-- What stands in front of the cursor in the clause that the line ends with. -/
structure Cursor where
  /-- The tokens that are finished. -/
  committed : List Token
  /-- The token that the line ends in the middle of. -/
  typing : Option Token
  deriving DecidableEq, Repr

/-- The same place in a line with more text in front. -/
def Cursor.shift (distance : Nat) (place : Cursor) : Cursor :=
  ⟨place.committed.map (Token.shift distance), place.typing.map (Token.shift distance)⟩

/-- Where the end of a line is. -/
def cursor (line : List Char) : Cursor :=
  let tokens := Node.lastTokens (parse line).nodes
  if isFresh (parse line) line then ⟨tokens, none⟩ else ⟨tokens.dropLast, tokens.getLast?⟩

/-- No space follows the operator that the line ends with. -/
def EndsInOperator (line : List Char) : Prop :=
  isFresh (parse line) line = false ∧
    ∃ token ∈ (tokenize line).getLast?, token.kind.isOperator = true

instance (line : List Char) : Decidable (EndsInOperator line) :=
  inferInstanceAs (Decidable (_ ∧ ∃ _ ∈ _, _))

section Plans

variable {registry : Registry σ} {store : σ} {line : List Char}

theorem clausePlan_nil (typing : Option Token) :
    clausePlan registry store [] typing =
      .ready (Candidate.matching ((typing.map tokenValue).getD "")
        (registry.topLevelCandidates store)) := rfl

/-- A line ends with the operator that its nodes end with. -/
theorem getLast?_tokenize_of_operator {token : Token}
    (last : (parse line).nodes.getLast? = some (.operator token)) :
    (tokenize line).getLast? = some token := by
  obtain ⟨front, nodes_eq⟩ := List.getLast?_eq_some_iff.mp last
  rw [← tokens_parse, Line.tokens, nodes_eq]
  simp [Node.tokens]

/-- Completion uses what stands in front of the cursor, and nothing else of the line. -/
theorem plan_eq_clausePlan (ended : ¬EndsInOperator line) :
    plan registry store line =
      clausePlan registry store (cursor line).committed (cursor line).typing := by
  cases last : (parse line).nodes.getLast? with
  | none =>
      have empty := List.getLast?_eq_none_iff.mp last
      simp [plan, cursor, clauses, empty, Node.lastTokens, clausePlan_nil]
  | some node =>
      cases node with
      | clause body =>
          have occupied : (parse line).clauses.isEmpty = false := by
            rw [List.isEmpty_eq_false_iff_exists_mem]
            exact ⟨body, List.mem_filterMap.mpr ⟨_, List.mem_of_getLast? last, rfl⟩⟩
          cases fresh : isFresh (parse line) line <;>
            simp [plan, cursor, occupied, last, fresh, Node.lastTokens]
      | operator token =>
          have fresh : isFresh (parse line) line = true := by
            by_contra stale
            apply ended
            refine ⟨by simpa using stale, token, getLast?_tokenize_of_operator last, ?_⟩
            exact isProper_nodes line _ (List.mem_of_getLast? last)
          simp [plan, cursor, last, fresh, Node.lastTokens, clausePlan_nil]

end Plans

section Positions

variable {line typed front back : List Char}

theorem isFresh_iff :
    isFresh (parse line) line = true ↔
      ∀ token ∈ (tokenize line).getLast?, token.stop < byteLength line := by
  rw [isFresh, tokens_parse]
  cases (tokenize line).getLast? <;> simp

theorem isFresh_of_awaitsToken (awaits : AwaitsToken line) :
    isFresh (parse line) line = true := by
  rw [isFresh_iff]
  intro token last
  exact stop_lt_of_awaitsToken awaits (List.mem_of_getLast? last)

theorem cursor_of_awaitsToken (awaits : AwaitsToken line) :
    cursor line = ⟨Node.lastTokens (parse line).nodes, none⟩ := by
  rw [cursor, if_pos (isFresh_of_awaitsToken awaits)]

theorem not_endsInOperator_of_awaitsToken (awaits : AwaitsToken line) :
    ¬EndsInOperator line := by
  rintro ⟨stale, -⟩
  rw [isFresh_of_awaitsToken awaits] at stale
  cases stale

/-- The last token of the clause stands right before what is typed, and an operator or
nothing makes no difference to a text that is no operator. -/
theorem classify_lastTokens (tokens : List Token) (noOperator : Connective.ofText? typed = none) :
    Kind.classify typed (tokens.getLast?.map Token.kind) =
      Kind.classify typed ((Node.lastTokens (Node.group tokens)).getLast?.map Token.kind) := by
  rw [Node.getLast?_lastTokens]
  cases last : tokens.getLast? with
  | none => rfl
  | some token =>
      cases kind : token.kind <;>
        simp [Option.filter_some, Kind.isOperator, kind, Kind.classify, noOperator]

/-- The line stops in the piece at its end. -/
theorem not_isFresh_append_piece (awaits : AwaitsToken line) (single : IsPiece typed) :
    isFresh (parse (line ++ typed)) (line ++ typed) = false := by
  rw [← Bool.not_eq_true, isFresh_iff, tokenize_append_piece awaits single]
  simp [Token.stop]

/-- A piece that is no operator becomes the token being typed. -/
theorem cursor_append_piece (awaits : AwaitsToken line) (single : IsPiece typed)
    (noOperator : Connective.ofText? typed = none) :
    let committed := (cursor line).committed
    ¬EndsInOperator (line ++ typed) ∧
      cursor (line ++ typed) =
        ⟨committed, some ⟨byteLength line, typed,
          Kind.classify typed (committed.getLast?.map Token.kind)⟩⟩ := by
  intro committed
  have tokens_eq := tokenize_append_piece awaits single
  have plain := Kind.isOperator_classify typed ((tokenize line).getLast?.map Token.kind)
  rw [noOperator, Option.isSome_none] at plain
  have stale := not_isFresh_append_piece awaits single
  constructor
  · rintro ⟨-, token, last, isOperator⟩
    rw [tokens_eq, List.getLast?_concat, Option.mem_some_iff] at last
    rw [← last, plain] at isOperator
    cases isOperator
  · have inFront : committed = Node.lastTokens (Node.group (tokenize line)) := by
      simp only [committed, cursor_of_awaitsToken awaits]
      rfl
    rw [cursor, if_neg (by simp [stale]), parse, tokens_eq,
      Node.lastTokens_group_concat plain, List.dropLast_concat, List.getLast?_concat,
      classify_lastTokens _ noOperator, ← inFront]

theorem not_endsInOperator_of_plain
    (plain : ∀ token ∈ tokenize line, token.kind.isOperator = false) :
    ¬EndsInOperator line := by
  rintro ⟨-, token, last, isOperator⟩
  rw [plain token (List.mem_of_getLast? last)] at isOperator
  cases isOperator

/-- Behind an operator the cursor is where it would be without all that comes before. -/
theorem cursor_behind_operator (closed : IsClosed front) (connective : Connective)
    (plain : ∀ token ∈ tokenize back, token.kind.isOperator = false) :
    let line := front ++ ' ' :: (connective.text ++ ' ' :: back)
    ¬EndsInOperator line ∧ cursor line = (cursor back).shift (byteLength front + 4) := by
  intro line
  have tokens_eq := tokenize_append_operator closed connective back
  have width : byteLength line = byteLength back + (byteLength front + 4) := by
    have blank : ' '.utf8Size = 1 := rfl
    simp only [line, byteLength_append, byteLength_cons, byteLength_text, blank]
    omega
  have fresh : isFresh (parse line) line = isFresh (parse back) back := by
    rw [Bool.eq_iff_iff, isFresh_iff, isFresh_iff, tokens_eq, width]
    cases last : (tokenize back).getLast? with
    | none =>
        have before : byteLength front + 1 + 2 < byteLength back + (byteLength front + 4) := by
          omega
        simpa [List.getLast?_cons, last, Token.stop] using before
    | some token => simp [List.getLast?_cons, last]
  have plainShifted : ∀ token ∈ (tokenize back).map (Token.shift (byteLength front + 4)),
      token.kind.isOperator = false := by
    simpa using plain
  have inFront : Node.lastTokens (parse line).nodes =
      (Node.lastTokens (parse back).nodes).map (Token.shift (byteLength front + 4)) := by
    rw [parse, parse, tokens_eq, Node.lastTokens_group_append rfl plainShifted,
      Node.lastTokens_group_of_plain plain]
  constructor
  · rintro ⟨stale, token, last, isOperator⟩
    rw [tokens_eq] at last
    cases last' : (tokenize back).getLast? with
    | none =>
        rw [fresh, ← Bool.not_eq_true, isFresh_iff, last'] at stale
        simp at stale
    | some other =>
        have same : other.shift (byteLength front + 4) = token := by
          simpa [List.getLast?_cons, last'] using last
        rw [← same, Token.kind_shift, plain other (List.mem_of_getLast? last')] at isOperator
        cases isOperator
  · rw [cursor, cursor, fresh, inFront]
    split <;> simp [Cursor.shift, List.map_dropLast]

end Positions

section Ignoring

/-- The candidates are the same whatever line they are asked for. -/
def Provider.IgnoresLine (provider : Provider σ) : Prop :=
  ∀ line other store, provider.candidates line store = provider.candidates other store

/-- The providers of the arguments and options of a command. -/
def providers (command : Command σ) : List (Provider σ) :=
  command.arguments.filterMap (·.provider) ++ command.options.filterMap (·.provider)

/-- No provider of a registered command looks at the line. -/
def Registry.IgnoresLine (registry : Registry σ) : Prop :=
  ∀ entry ∈ registry.entries, ∀ provider ∈ entry.2.providers, provider.IgnoresLine

/-- Nothing that is asked looks at the line. -/
def Plan.IgnoresLine : Plan σ → Prop
  | .ready _ => True
  | .ask provider _ _ => provider.IgnoresLine

theorem Plan.run_of_ignoresLine {plan : Plan σ} (ignores : plan.IgnoresLine)
    (line other : String) (store : σ) : plan.run line store = plan.run other store := by
  cases plan with
  | ready candidates => rfl
  | ask provider target stem =>
      simp only [Plan.run, ignores line other store]

theorem Plan.ignoresLine_ofProvider {provider : Option (Provider σ)}
    (ignores : ∀ given ∈ provider, given.IgnoresLine) (target stem : String) :
    (Plan.ofProvider provider target stem).IgnoresLine := by
  cases provider with
  | none => trivial
  | some given => exact ignores given rfl

variable {registry : Registry σ} {store : σ}

theorem ignoresLine_of_resolve (ignores : registry.IgnoresLine) {words : List String}
    {anchor : Resolution σ} (resolved : registry.resolve store words = .ok anchor) :
    ∀ provider ∈ anchor.command.providers, provider.IgnoresLine := by
  obtain ⟨-, -, -, -, longest⟩ := Registry.resolve_eq_ok resolved
  have known := (Registry.enabled?_eq_some_iff.mp longest.enabled).1
  obtain ⟨front, back, entries_eq, -⟩ := List.lookup_eq_some_iff.mp known
  apply ignores (anchor.id, anchor.command)
  simp [entries_eq]

theorem ignoresLine_positionalPlan {anchor : Resolution σ}
    (ignores : ∀ provider ∈ anchor.command.providers, provider.IgnoresLine)
    (committed : List Token) (typed : String) :
    (positionalPlan registry store anchor committed typed).IgnoresLine := by
  rw [positionalPlan]
  split
  · dsimp only
    split
    · rename_i argument here
      apply Plan.ignoresLine_ofProvider
      intro provider given
      apply ignores
      have member := List.mem_of_getElem? here
      exact List.mem_append_left _ (List.mem_filterMap.mpr ⟨argument, member, given⟩)
    · trivial
  · trivial

theorem ignoresLine_clausePlan (ignores : registry.IgnoresLine) (committed : List Token)
    (typing : Option Token) : (clausePlan registry store committed typing).IgnoresLine := by
  rw [clausePlan]
  split
  · trivial
  · split
    · trivial
    · rename_i anchor resolved
      have quiet := ignoresLine_of_resolve ignores resolved
      split
      · exact ignoresLine_positionalPlan quiet committed _
      · trivial
      · split
        · rename_i option found
          apply Plan.ignoresLine_ofProvider
          intro provider given
          apply quiet
          obtain ⟨key, -, found⟩ := Option.bind_eq_some_iff.mp found
          have member := List.mem_of_find?_eq_some found
          exact List.mem_append_right _ (List.mem_filterMap.mpr ⟨option, member, given⟩)
        · trivial

/-- Where no provider looks at the line, the answer depends on the tokens in front of the
cursor only. -/
theorem complete_of_cursor (ignores : registry.IgnoresLine) {line : String}
    (ended : ¬EndsInOperator line.toList) (other : String) :
    complete registry line store =
      (clausePlan registry store (cursor line.toList).committed
        (cursor line.toList).typing).run other store := by
  rw [complete, plan_eq_clausePlan ended]
  exact Plan.run_of_ignoresLine (ignoresLine_clausePlan ignores _ _) line other store

/-- A fixed list is the same for every line. -/
theorem ignoresLine_ofList (candidates : List Candidate) :
    (Provider.ofList candidates : Provider σ).IgnoresLine := fun _ _ _ => rfl

/-- A command that opens one of three things. -/
def opening : Command Unit :=
  { Command.ofName "open" "Opens a file" with
    arguments := [{
      name := "file", description := none, required := true, validator := none
      provider := some (.ofList [.plain "my plan", .plain "my list", .plain "mine"]) }] }

theorem ignoresLine_opening : (Registry.afterCalls [opening]).IgnoresLine := by
  have entries_eq : (Registry.afterCalls [opening]).entries = [("open", opening)] := rfl
  have providers_eq : opening.providers =
      [.ofList [.plain "my plan", .plain "my list", .plain "mine"]] := rfl
  intro entry member provider given
  rw [entries_eq, List.mem_singleton] at member
  rw [member, providers_eq, List.mem_singleton] at given
  rw [given]
  exact ignoresLine_ofList _

end Ignoring

end OperatorShell.Command
