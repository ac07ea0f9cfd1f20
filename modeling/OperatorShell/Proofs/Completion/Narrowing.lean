import OperatorShell.Proofs.Completion.Cursor

/-!
# Typing narrows completion

The slot of a token that is being typed is the one that was open before it, because an
ordinary text gets its kind from the token in front of it.  So the candidates for the
first part of a token are those that were offered for the whole slot and begin with it.
-/

namespace OperatorShell.Command

open Line Text

variable {σ : Type}

/-- An answer without the candidates that do not begin with a stem. -/
def narrowed (stem : String) (answer : Except ProviderError (List Candidate) × σ) :
    Except ProviderError (List Candidate) × σ :=
  (answer.1.map (Candidate.matching stem), answer.2)

@[simp] theorem run_ready (candidates : List Candidate) (line : String) (store : σ) :
    (Plan.ready candidates).run line store = (.ok candidates, store) := rfl

section Plans

variable {registry : Registry σ} {store : σ} (line : String)

theorem run_ofProvider (provider : Option (Provider σ)) (target stem : String) :
    (Plan.ofProvider provider target stem).run line store =
      narrowed stem ((Plan.ofProvider provider target "").run line store) := by
  cases provider with
  | none => rfl
  | some provider =>
      simp only [Plan.ofProvider, Plan.run]
      rcases provider.candidates line store with ⟨failure | candidates, after⟩
      · rfl
      · simp [narrowed, Except.map]

theorem run_positionalPlan (anchor : Resolution σ) (committed : List Token)
    (typed : String) :
    (positionalPlan registry store anchor committed typed).run line store =
      narrowed typed ((positionalPlan registry store anchor committed "").run line store) := by
  simp only [positionalPlan]
  split
  · split
    · exact run_ofProvider line _ _ typed
    · rfl
  · simp [narrowed, Except.map]

/-- An ordinary text fills the slot that is open behind the tokens before it. -/
theorem slot_of_following (command : Command σ) {committed : List Token} {token : Token}
    (follows : token.kind = Kind.following (committed.getLast?.map Token.kind)) :
    slot command committed (some token) = slot command committed none := by
  simp only [slot, follows]
  cases last : committed.getLast? with
  | none => rfl
  | some previous => cases kind : previous.kind <;> simp [Kind.following, kind, Kind.isKey]

theorem slot_none_ne_optionKey (command : Command σ) (committed : List Token) :
    slot command committed none ≠ .optionKey := by
  simp only [slot]
  split
  · split <;> simp
  · simp

/-- The plan for a token being typed asks for the same as the plan without it. -/
theorem run_clausePlan_of_following {committed : List Token} {token : Token}
    (follows : token.kind = Kind.following (committed.getLast?.map Token.kind)) :
    (clausePlan registry store committed (some token)).run line store =
      narrowed (tokenValue token)
        ((clausePlan registry store committed none).run line store) := by
  simp only [clausePlan, slot_of_following _ follows]
  split
  · simp [narrowed, Except.map]
  · split
    · rfl
    · split
      · exact run_positionalPlan line _ committed (tokenValue token)
      · rename_i isKey
        exact (slot_none_ne_optionKey _ committed isKey).elim
      · split
        · exact run_ofProvider line _ _ (tokenValue token)
        · rfl

end Plans

/-- Where a token is awaited, typing the first part of one keeps, in order, the candidates
that begin with what the part stands for, and a failing provider still fails. -/
theorem complete_append_piece {registry : Registry σ} (ignores : registry.IgnoresLine)
    (store : σ) {line typed : String} (awaits : AwaitsToken line.toList)
    (single : IsPiece typed.toList) (ordinary : IsOrdinary typed.toList) :
    complete registry (line ++ typed) store =
      narrowed (String.ofList (unquote typed.toList)) (complete registry line store) := by
  obtain ⟨ended, place⟩ := cursor_append_piece awaits single ordinary.2
  rw [← String.toList_append] at ended place
  rw [complete_of_cursor ignores ended line, place]
  rw [complete, plan_eq_clausePlan (not_endsInOperator_of_awaitsToken awaits),
    cursor_of_awaitsToken awaits]
  exact run_clausePlan_of_following line (Kind.classify_of_isOrdinary ordinary _)

/-- Inside an open quote a space is part of what is typed. -/
theorem complete_open_quote :
    complete (.afterCalls [opening]) ("open " ++ "\"my ") () =
        narrowed "my " (complete (.afterCalls [opening]) "open " ()) ∧
      complete (.afterCalls [opening]) ("open " ++ "\"my ") () =
        (.ok [.plain "my plan", .plain "my list"], ()) := by
  have awaits : AwaitsToken "open ".toList := .inr ⟨"open".toList, by decide, by decide⟩
  have content : String.ofList (unquote "\"my ".toList) = "my " := by decide
  have narrows := complete_append_piece ignoresLine_opening () awaits
    (by decide : IsPiece "\"my ".toList) (by decide)
  rw [content] at narrows
  exact ⟨narrows, by decide +kernel⟩

end OperatorShell.Command
