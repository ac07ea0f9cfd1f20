import OperatorShell.Proofs.Completion.Cursor

/-!
# Completion behind an operator

Whatever completion does with a token it does with its text and kind, and behind an
operator both are what they would be at the start of a line.  So the commands in front of
the last operator make no difference to what can follow.
-/

namespace OperatorShell.Command

open Line Text

variable {σ : Type}

section Shifted

variable (distance : Nat)

@[simp] theorem keyName?_shift (token : Token) :
    keyName? (token.shift distance) = keyName? token := rfl

@[simp] theorem tokenValue_shift (token : Token) :
    tokenValue (token.shift distance) = tokenValue token := rfl

@[simp] theorem shortLetter?_shift (token : Token) :
    shortLetter? (token.shift distance) = shortLetter? token := rfl

@[simp] theorem ownerTakesValue_shift (command : Command σ) (owner : Option Token) :
    ownerTakesValue command (owner.map (Token.shift distance)) =
      ownerTakesValue command owner := by
  cases owner <;> rfl

@[simp] theorem leadingWords_shift (tokens : List Token) :
    (Clause.mk (tokens.map (Token.shift distance))).leadingWords =
      (Clause.mk tokens).leadingWords := by
  simp only [Clause.leadingWords, List.takeWhile_map, List.map_map]
  rfl

theorem slot_shift (command : Command σ) (committed : List Token) (typing : Option Token) :
    slot command (committed.map (Token.shift distance)) (typing.map (Token.shift distance)) =
      slot command committed typing := by
  cases typing with
  | some token => simp [slot]
  | none =>
      cases last : committed.getLast? with
      | none => simp [slot, last]
      | some previous =>
          have owner := ownerTakesValue_shift distance command (some previous)
          rw [Option.map_some] at owner
          simp [slot, last, owner]

theorem countPositionals_shift (command : Command σ) (previous : Option Token)
    (tokens : List Token) :
    countPositionals command (previous.map (Token.shift distance))
        (tokens.map (Token.shift distance)) =
      countPositionals command previous tokens := by
  induction tokens generalizing previous with
  | nil => rfl
  | cons token rest ih =>
      have later := ih (some token)
      rw [Option.map_some] at later
      simp only [List.map_cons, countPositionals, later, ownerTakesValue_shift,
        Token.kind_shift]

theorem optionKeys_shift (command : Command σ) (committed : List Token)
    (typing : Option Token) :
    optionKeys command (committed.map (Token.shift distance))
        (typing.map (Token.shift distance)) =
      optionKeys command committed typing := by
  cases typing <;> simp [optionKeys, List.filterMap_map, Function.comp_def]

theorem positionalPlan_shift (registry : Registry σ) (store : σ) (anchor : Resolution σ)
    (committed : List Token) (typed : String) :
    positionalPlan registry store anchor (committed.map (Token.shift distance)) typed =
      positionalPlan registry store anchor committed typed := by
  have count := countPositionals_shift distance anchor.command none
    (committed.drop anchor.depth)
  rw [Option.map_none] at count
  simp only [positionalPlan, ← List.map_drop, count]

/-- The plan for a clause does not depend on where the clause stands. -/
theorem clausePlan_shift (registry : Registry σ) (store : σ) (committed : List Token)
    (typing : Option Token) :
    clausePlan registry store (committed.map (Token.shift distance))
        (typing.map (Token.shift distance)) =
      clausePlan registry store committed typing := by
  have typed : (typing.map (Token.shift distance)).map tokenValue = typing.map tokenValue := by
    cases typing <;> rfl
  have owner : (committed.map (Token.shift distance)).getLast?.bind keyName? =
      committed.getLast?.bind keyName? := by
    cases last : committed.getLast? <;> simp [last]
  simp only [clausePlan, typed, owner, leadingWords_shift, slot_shift, positionalPlan_shift,
    optionKeys_shift]

end Shifted

/-- Behind an operator completion offers what it would offer for the rest of the line alone:
whether the rest is blank, open or being typed, and whatever comes before. -/
theorem complete_behind_operator {registry : Registry σ} (ignores : registry.IgnoresLine)
    (store : σ) {front back : String} (connective : Connective)
    (closed : IsClosed front.toList)
    (plain : ∀ token ∈ tokenize back.toList, token.kind.isOperator = false) :
    complete registry (front ++ " " ++ String.ofList connective.text ++ " " ++ back) store =
      complete registry back store := by
  obtain ⟨ended, place⟩ := cursor_behind_operator closed connective plain
  have joined : (front ++ " " ++ String.ofList connective.text ++ " " ++ back).toList =
      front.toList ++ ' ' :: (connective.text ++ ' ' :: back.toList) := by
    simp
  rw [← joined] at ended place
  rw [complete_of_cursor ignores ended back,
    complete_of_cursor ignores (not_endsInOperator_of_plain plain) back, place]
  simp only [Cursor.shift, clausePlan_shift]

/-- An operator too many in front of the last one changes nothing, nor does an open quote
behind it. -/
theorem complete_behind_operators :
    complete (.afterCalls [opening])
          ("open mine ||" ++ " " ++ String.ofList Connective.and.text ++ " " ++ "open \"my ")
          () =
        complete (.afterCalls [opening]) "open \"my " () ∧
      complete (.afterCalls [opening]) "open \"my " () =
        (.ok [.plain "my plan", .plain "my list"], ()) := by
  constructor
  · exact complete_behind_operator ignoresLine_opening () .and (by decide) (by decide)
  · decide +kernel

end OperatorShell.Command
