import OperatorShell.Proofs.Command.Registration
import OperatorShell.Proofs.Session.Gate

/-!
# Commands below a hidden one

A hidden command at the top level keeps its name and everything that is typed behind
its name from being found.  It does not keep an id from being found that is typed as one
word, with its colons: such a word is looked up as it stands, and only its own command
can hide it.
-/

namespace OperatorShell

open Line Command

namespace Command.Registry

variable {σ : Type}

/-- The first word is itself an id below the root, of a command that is not hidden. -/
def SlipsPast (registry : Registry σ) (store : σ) (root : String)
    (words : List String) : Prop :=
  ∃ first rest, words = first :: rest ∧ IsBelow root first ∧
    ∃ command, registry.enabled? store first = some command

variable {registry : Registry σ} {store : σ} {root : String}

/-- Behind a hidden root, words resolve to the root or below it just when they slip past
the root. -/
theorem exists_resolve_isWithin_iff (forest : registry.IsForest)
    (top : root ∈ registry.topLevel) (hidden : registry.hides store root = true)
    (words : List String) :
    (∃ resolution, registry.resolve store words = .ok resolution ∧
        IsWithin root resolution.id) ↔
      registry.SlipsPast store root words := by
  have plain := forest.plain_of_mem_topLevel top
  constructor
  · rintro ⟨resolution, resolved, within⟩
    obtain ⟨first, rest, rfl, shown, longest⟩ := resolve_eq_ok resolved
    obtain ⟨others, id_eq⟩ := longest.exists_id_eq
    rw [id_eq, isWithin_qualifiedId_iff plain] at within
    rcases within with rfl | below
    · rw [hidden] at shown
      cases shown
    · have registered : resolution.id ∈ registry.ids :=
        mem_ids_iff.mpr ⟨_, (enabled?_eq_some_iff.mp longest.enabled).1⟩
      have first_registered : first ∈ registry.ids := by
        rcases isWithin_qualifiedId first others with same | deeper
        · rwa [id_eq, same] at registered
        · rw [← id_eq] at deeper
          exact forest.mem_of_isBelow deeper registered
      obtain ⟨command, known⟩ := mem_ids_iff.mp first_registered
      exact ⟨first, rest, rfl, below, command, enabled?_of_hides_eq_false shown known⟩
  · rintro ⟨first, rest, rfl, below, command, enabled⟩
    obtain ⟨resolution, resolved⟩ := exists_resolve_of_enabled? enabled
    refine ⟨resolution, resolved, ?_⟩
    obtain ⟨first', rest', same, -, longest⟩ := resolve_eq_ok resolved
    obtain ⟨others, id_eq⟩ := longest.exists_id_eq
    rw [id_eq, isWithin_qualifiedId_iff plain]
    exact .inr below

end Command.Registry

namespace Session

variable {σ : Type}

/-- What a hidden root at the top level lets through, in a registry that was built by
any calls: words whose first one is itself an id below the root; and on any line, a body
of the tree is called only from such words. -/
theorem reaches_below_hidden_iff (commands : List (Command σ)) (root : String)
    (top : root ∈ (Registry.afterCalls commands).topLevel) :
    let registry := Registry.afterCalls commands
    (∀ store words, registry.hides store root = true →
      ((∃ resolution, registry.resolve store words = .ok resolution ∧
          IsWithin root resolution.id) ↔
        registry.SlipsPast store root words)) ∧
    ∀ style line (scene : Scene σ), ∀ step ∈ lineSteps registry style line scene,
      registry.hides step.before.store root = true →
      ∀ invocation, step.report.call = some invocation →
        (IsWithin root invocation.id ↔
          registry.SlipsPast step.before.store root step.clause.leadingWords) := by
  intro registry
  have forest : registry.IsForest := Registry.isForest_afterCalls commands
  constructor
  · intro store words hidden
    exact Registry.exists_resolve_isWithin_iff forest top hidden words
  · intro style line scene step member hidden invocation called
    have gated := gated_of_runClause (run_of_mem_stepsOf _ _ _ member)
    obtain ⟨resolution, body, admitted, rfl⟩ := (gated.call_iff invocation).mp called
    rw [← Registry.exists_resolve_isWithin_iff forest top hidden]
    constructor
    · intro within
      exact ⟨resolution, admitted.resolved, within⟩
    · rintro ⟨other, resolved, within⟩
      rw [admitted.resolved] at resolved
      cases resolved
      exact within

/-- A hidden command with a subcommand. -/
def vault : List (Command Unit) := [
  { Command.ofName "secret" "Is hidden" with
    disabled := some fun _ => true
    subcommands := [
      { Command.ofName "deep" "Runs" with body := some fun _ => .done () }] }]

/-- Two words do not lead below the hidden command, and the same id as one word does. -/
theorem reaches_below_secret_iff :
    (¬∃ resolution, (Registry.afterCalls vault).resolve () ["secret", "deep"] =
        .ok resolution ∧ IsWithin "secret" resolution.id) ∧
      ∃ resolution, (Registry.afterCalls vault).resolve () ["secret:deep"] =
        .ok resolution ∧ IsWithin "secret" resolution.id := by
  have top : "secret" ∈ (Registry.afterCalls vault).topLevel := by decide
  have hidden : (Registry.afterCalls vault).hides () "secret" = true := by rfl
  have reaches := (reaches_below_hidden_iff vault "secret" top).1 ()
  constructor
  · rw [reaches _ hidden]
    rintro ⟨first, rest, same, below, -⟩
    cases same
    revert below
    decide
  · rw [reaches _ hidden]
    exact ⟨"secret:deep", [], rfl, by decide, _, rfl⟩

/-- A line calls the body below a hidden command that it names by one word. -/
theorem calls_below_secret :
    "secret" ∈ (Registry.afterCalls vault).topLevel ∧
      (Registry.afterCalls vault).hides () "secret" = true ∧
      ∃ step ∈ lineSteps (Registry.afterCalls vault) ⟨10, '*'⟩ "secret:deep"
        (⟨.ofKeys [], ()⟩ : Scene Unit),
        ∃ invocation, step.report.call = some invocation ∧
          IsWithin "secret" invocation.id := by
  have steps : lineSteps (Registry.afterCalls vault) ⟨10, '*'⟩ "secret:deep"
      (⟨.ofKeys [], ()⟩ : Scene Unit) =
        [⟨⟨[⟨0, "secret:deep".toList, .word⟩]⟩, ⟨.ofKeys [], ()⟩,
          ⟨"secret:deep", some ⟨"secret:deep", [], .empty, "secret:deep"⟩,
            .ok (.executed "secret:deep")⟩, ⟨.ofKeys [], ()⟩⟩] := by
    rfl
  refine ⟨by decide, rfl, ?_⟩
  rw [steps]
  exact ⟨_, List.mem_cons_self, _, rfl, by decide⟩

end Session

end OperatorShell
