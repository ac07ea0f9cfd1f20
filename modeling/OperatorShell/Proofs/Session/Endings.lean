import OperatorShell.Proofs.Question.Choosing
import OperatorShell.Session.Execution

/-!
# How scripts end

What a script makes of the store depends on the operator only through the answers to its
questions.  What it ensures for all answers that its questions can yield is computed from the
script alone, part by part, and holds of every run.
-/

namespace OperatorShell

open Command Session

variable {σ α β : Type}

namespace Command.Script

/-- Whatever its questions yield and its prints come to, the script ends with a result and a store
of this kind. -/
def Ensures : Script σ α → σ → (Except Failure α → σ → Prop) → Prop
  | .done result, store, ends => ends (.ok result) store
  | .fail failure, store, ends => ends (.error failure) store
  | .load next, store, ends => (next store).Ensures store ends
  | .save store next, _, ends => next.Ensures store ends
  | .print _ next, store, ends => ∀ fault, (next fault).Ensures store ends
  | .pose question next, store, ends =>
      ∀ answer, question.CanYield answer → (next answer).Ensures store ends

/-- How a script has to end for the one behind it to end in this way. -/
def Before (next : α → Script σ β) (ends : Except Failure β → σ → Prop) :
    Except Failure α → σ → Prop
  | .ok value, store => (next value).Ensures store ends
  | .error failure, store => ends (.error failure) store

section Parts

variable {store : σ} {script : Script σ α} {ends : Except Failure α → σ → Prop}

theorem ensures_bind_iff {next : α → Script σ β} {ends : Except Failure β → σ → Prop} :
    (script >>= next).Ensures store ends ↔ script.Ensures store (Before next ends) := by
  change (script.bind next).Ensures store ends ↔ _
  induction script generalizing store with
  | done value => rfl
  | fail failure => rfl
  | load more ih => exact ih store
  | save changed more ih => exact ih
  | print text more ih => exact forall_congr' fun fault => ih fault
  | pose question more ih =>
      exact forall_congr' fun answer => imp_congr_right fun _ => ih answer

theorem Ensures.mono {weaker : Except Failure α → σ → Prop} (ensured : script.Ensures store ends)
    (implies : ∀ result after, ends result after → weaker result after) :
    script.Ensures store weaker := by
  induction script generalizing store with
  | done value | fail failure => exact implies _ _ ensured
  | load more ih => exact ih store ensured
  | save changed more ih => exact ih ensured
  | print text more ih => exact fun fault => ih fault (ensured fault)
  | pose question more ih => exact fun answer yields => ih answer (ensured answer yields)

end Parts

/-- The script leaves the store alone, and what it finds is of this kind. -/
def Finds (script : Script σ α) (store : σ) (kind : α → Prop) : Prop :=
  script.Ensures store fun result after =>
    after = store ∧ ∀ value, result = .ok value → kind value

section Finding

variable {store : σ} {script : Script σ α} {kind : α → Prop}

theorem finds_pure {value : α} (holds : kind value) :
    (pure value : Script σ α).Finds store kind := by
  refine ⟨rfl, ?_⟩
  rintro _ ⟨⟩
  exact holds

theorem finds_failWith (message : String) : (failWith message : Script σ α).Finds store kind :=
  ⟨rfl, by rintro _ ⟨⟩⟩

theorem finds_printLine (text : String) :
    (printLine text : Script σ Unit).Finds store fun _ => True := by
  rintro (_ | fault)
  · exact finds_pure trivial
  · exact finds_failWith fault.message

theorem finds_get : get.Finds store (· = store) := finds_pure rfl

theorem finds_ask (question : Question) :
    (ask question : Script σ question.Answer).Finds store
      fun answer => question.CanYield (.ok answer) := by
  rintro (error | answer) yields
  · exact ⟨rfl, by rintro _ ⟨⟩⟩
  · exact finds_pure yields

/-- A script that goes on with what it has found. -/
theorem Finds.ensures_bind (found : script.Finds store kind) {next : α → Script σ β}
    {ends : Except Failure β → σ → Prop} (fails : ∀ failure, ends (.error failure) store)
    (goes : ∀ value, kind value → (next value).Ensures store ends) :
    (script >>= next).Ensures store ends := by
  refine ensures_bind_iff.mpr (found.mono ?_)
  rintro (failure | value) after ⟨rfl, holds⟩
  · exact fails failure
  · exact goes value (holds value rfl)

theorem Finds.bind {kinds : β → Prop} (found : script.Finds store kind) {next : α → Script σ β}
    (goes : ∀ value, kind value → (next value).Finds store kinds) :
    (script >>= next).Finds store kinds :=
  found.ensures_bind (fun _ => ⟨rfl, by rintro _ ⟨⟩⟩) goes

/-- A script for each of several things leaves the store alone if each of them does. -/
theorem finds_forM (things : List β) {step : β → Script σ Unit}
    (each : ∀ thing, (step thing).Finds store fun _ => True) :
    (things.forM step).Finds store fun _ => True := by
  induction things with
  | nil => exact finds_pure trivial
  | cons thing rest ih => exact (each thing).bind fun _ _ => ih

end Finding

end Command.Script

/-- What a script ensures holds of every run. -/
theorem Session.runScript_of_ensures {device : Device} (style : AskStyle) {script : Script σ α}
    (scene : Scene σ device) {ends : Except Failure α → σ → Prop}
    (ensured : script.Ensures scene.store ends) :
    let ran := runScript style script scene
    ends ran.1 ran.2.store := by
  induction script generalizing scene with
  | done result | fail failure => exact ensured
  | load next ih => exact ih scene.store scene ensured
  | save store next ih => exact ih { scene with store := store } ensured
  | print text next ih =>
      exact ih _ { scene with console := (scene.console.writeLine text).state } (ensured _)
  | pose question next ih =>
      have put := question.canYield_put style scene.console
      exact ih _ { scene with console := (question.put style scene.console).2 } (ensured _ put)

end OperatorShell
