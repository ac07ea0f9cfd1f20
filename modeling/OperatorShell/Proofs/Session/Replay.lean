import OperatorShell.Proofs.Completion.Locality
import OperatorShell.Proofs.Line.Composition
import OperatorShell.Session.Execution

/-!
# Replaying a clause

A report carries the text of its clause.  That text is a line of its own, and what a clause
means does not depend on where it stands, so running the text alone runs the clause again.
-/

namespace OperatorShell.Session

open Line Command

variable {σ : Type}

section Shifted

variable (distance : Nat)

@[simp] theorem tokenKey?_shift (token : Token) :
    tokenKey? (token.shift distance) = tokenKey? token := rfl

/-- Items do not depend on where their tokens stand. -/
theorem readItems_shift (command : Command σ) (tokens : List Token) :
    readItems command (tokens.map (Token.shift distance)) = readItems command tokens := by
  fun_induction readItems command tokens with
  | case1 => rfl
  | _ =>
      rw [List.map_cons, readItems]
      simp_all

/-- What a clause asks for does not depend on where it stands. -/
theorem prepare_shift (registry : Registry σ) (store : σ) (tokens : List Token)
    (text : String) :
    prepare registry store ⟨tokens.map (Token.shift distance)⟩ text =
      prepare registry store ⟨tokens⟩ text := by
  simp only [prepare, leadingWords_shift, ← List.map_drop, readItems_shift]

end Shifted

/-- A report is about the text that was run. -/
@[simp] theorem text_perform (style : AskStyle) (text : String)
    (decision : Except DispatchError (Decision σ)) (scene : Scene σ) :
    (perform style text decision scene).1.text = text := by
  unfold perform
  split
  · rfl
  · rfl
  · split <;> rfl

/-- A line of one clause is run by running the clause. -/
theorem runLine_of_single {text : List Char} {body : Clause}
    (single : (parse text).nodes = [.clause body]) (registry : Registry σ) (style : AskStyle)
    (scene : Scene σ) :
    runLine registry style (String.ofList text) scene =
      ([(runClause registry style text body scene).1],
        (runClause registry style text body scene).2) := by
  simp [runLine, single, runNodes, skips]

/-- The text of a clause replays it: the text is a line of this clause alone, only further to
the left, which is prepared to the same effect and, with the same report, run. -/
theorem rawText_replays {line : List Char} {body : Clause}
    (member : body ∈ (parse line).clauses) :
    let text := body.rawText line
    ∃ replayed : Clause, (parse text).nodes = [.clause replayed] ∧
      body.tokens = replayed.tokens.map (Token.shift body.start) ∧
      (∀ (registry : Registry σ) (store : σ),
        prepare registry store replayed (String.ofList (replayed.rawText text)) =
          prepare registry store body (String.ofList text)) ∧
      ∀ (registry : Registry σ) (style : AskStyle) (scene : Scene σ),
        let step := runClause registry style line body scene
        step.1.text = String.ofList text ∧
          runLine registry style step.1.text scene = ([step.1], step.2) := by
  intro text
  obtain ⟨replayed, single, shifted, whole⟩ := parse_rawText member
  have body_eq : body = ⟨replayed.tokens.map (Token.shift body.start)⟩ := by rw [← shifted]
  have prepared (registry : Registry σ) (store : σ) (typed : String) :
      prepare registry store body typed = prepare registry store replayed typed := by
    rw [body_eq, prepare_shift]
  refine ⟨replayed, single, shifted, ?_, ?_⟩
  · intro registry store
    rw [whole, prepared]
  · intro registry style scene step
    have ran : runClause registry style text replayed scene = step := by
      simp only [step, runClause, Command.decide, prepared, text, whole]
    have named : step.1.text = String.ofList text := text_perform ..
    constructor
    · exact named
    · rw [named, runLine_of_single single, ran]

/-- A clause between operators, with a quoted operator in it, is replayed. -/
theorem greeting_replays :
    let line := "&& greet \"a && b\"  x || y".toList
    let body : Clause :=
      ⟨[⟨3, "greet".toList, .word⟩, ⟨9, "\"a && b\"".toList, .word⟩, ⟨19, ['x'], .word⟩]⟩
    let text := "greet \"a && b\"  x"
    body ∈ (parse line).clauses ∧
      (∃ replayed, (parse text.toList).nodes = [.clause replayed] ∧
        body.tokens = replayed.tokens.map (Token.shift 3)) ∧
      ∀ (registry : Registry Unit) (style : AskStyle) (scene : Scene Unit),
        let step := runClause registry style line body scene
        step.1.text = text ∧ runLine registry style text scene = ([step.1], step.2) := by
  intro line body text
  have member : body ∈ (parse line).clauses := by decide
  have text_eq : body.rawText line = text.toList := by decide
  obtain ⟨replayed, single, shifted, -, ran⟩ := rawText_replays (σ := Unit) member
  rw [text_eq] at single
  refine ⟨member, ⟨replayed, single, shifted⟩, ?_⟩
  intro registry style scene step
  obtain ⟨named, again⟩ := ran registry style scene
  rw [text_eq, String.ofList_toList] at named
  rw [named] at again
  exact ⟨named, again⟩

end OperatorShell.Session
