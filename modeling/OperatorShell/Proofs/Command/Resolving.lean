import OperatorShell.Command.Registry
import OperatorShell.Proofs.Command.Ids

/-!
# Resolving words

Words resolve to the longest run of leading words that makes up the id of a command that
is registered and not hidden, unless the first word alone names a hidden command.
-/

namespace OperatorShell.Command

variable {σ : Type}

namespace Registry

variable (registry : Registry σ) (store : σ)

/-- The command with an id, unless it is hidden. -/
def enabled? (id : String) : Option (Command σ) :=
  (registry.get? id).filter fun command => !command.isDisabled store

/-- A run of leading words makes up the id of a command that is not hidden. -/
structure IsMatch (words : List String) (resolution : Resolution σ) : Prop where
  depth_pos : 0 < resolution.depth
  depth_le : resolution.depth ≤ words.length
  id_eq : resolution.id = qualifiedId (words.take resolution.depth)
  enabled : registry.enabled? store resolution.id = some resolution.command

/-- No run of more leading words makes up an id of this kind. -/
structure IsLongestMatch (words : List String) (resolution : Resolution σ) : Prop
    extends registry.IsMatch store words resolution where
  longest : ∀ depth, resolution.depth < depth → depth ≤ words.length →
    registry.enabled? store (qualifiedId (words.take depth)) = none

variable {registry store}

theorem enabled?_eq_some_iff {id : String} {command : Command σ} :
    registry.enabled? store id = some command ↔
      registry.get? id = some command ∧ command.isDisabled store = false := by
  simp [enabled?, Option.filter_eq_some_iff]

/-- A registered command is hidden or it is not. -/
theorem enabled?_of_hides_eq_false {id : String} {command : Command σ}
    (shown : registry.hides store id = false) (known : registry.get? id = some command) :
    registry.enabled? store id = some command := by
  rw [enabled?_eq_some_iff]
  refine ⟨known, ?_⟩
  simpa [hides, known] using shown

theorem hides_of_enabled? {id : String} {command : Command σ}
    (enabled : registry.enabled? store id = some command) :
    registry.hides store id = false := by
  obtain ⟨known, shown⟩ := enabled?_eq_some_iff.mp enabled
  simp [hides, known, shown]

/-- The id of a match starts with the first word. -/
theorem IsMatch.exists_id_eq {first : String} {rest : List String}
    {resolution : Resolution σ}
    (matched : registry.IsMatch store (first :: rest) resolution) :
    ∃ others, resolution.id = qualifiedId (first :: others) := by
  obtain ⟨depth, positive⟩ := Nat.exists_eq_add_one.mpr matched.depth_pos
  refine ⟨rest.take depth, ?_⟩
  rw [matched.id_eq, positive, List.take_succ_cons]

/-- The search goes on with fewer words just when these name nothing that is shown. -/
theorem longestMatch?_succ (words : List String) (depth : Nat) :
    registry.longestMatch? store words (depth + 1) =
      match registry.enabled? store (qualifiedId (words.take (depth + 1))) with
      | some command => some ⟨depth + 1, qualifiedId (words.take (depth + 1)), command⟩
      | none => registry.longestMatch? store words depth := by
  rw [longestMatch?]
  cases known : registry.get? (qualifiedId (words.take (depth + 1))) with
  | none => simp [enabled?, known]
  | some command =>
      cases hidden : command.isDisabled store with
      | false => simp [enabled?, known, hidden, Option.filter_some]
      | true => simp [enabled?, known, hidden, Option.filter_some]

/-- What the search finds is the longest match among those it looks at. -/
theorem longestMatch?_eq_some {words : List String} {bound : Nat}
    {resolution : Resolution σ} (within : bound ≤ words.length)
    (found : registry.longestMatch? store words bound = some resolution) :
    registry.IsMatch store words resolution ∧
      ∀ depth, resolution.depth < depth → depth ≤ bound →
        registry.enabled? store (qualifiedId (words.take depth)) = none := by
  induction bound with
  | zero => cases found
  | succ bound ih =>
      rw [longestMatch?_succ] at found
      split at found
      · rename_i command enabled
        cases found
        exact ⟨⟨Nat.succ_pos bound, within, rfl, enabled⟩,
          fun depth above below => absurd above (Nat.not_lt.mpr below)⟩
      · rename_i nothing
        obtain ⟨matched, longest⟩ := ih (by omega) found
        refine ⟨matched, ?_⟩
        intro depth above below
        rcases Nat.le_succ_iff.mp below with smaller | rfl
        · exact longest depth above smaller
        · exact nothing

/-- Where the search finds nothing there is no match among those it looks at. -/
theorem longestMatch?_eq_none {words : List String} {bound : Nat}
    (missed : registry.longestMatch? store words bound = none) :
    ∀ depth, 0 < depth → depth ≤ bound →
      registry.enabled? store (qualifiedId (words.take depth)) = none := by
  induction bound with
  | zero =>
      intro depth positive below
      omega
  | succ bound ih =>
      rw [longestMatch?_succ] at missed
      split at missed
      · cases missed
      · rename_i nothing
        intro depth positive below
        rcases Nat.le_succ_iff.mp below with smaller | rfl
        · exact ih missed depth positive smaller
        · exact nothing

/-- All that resolving can answer: the longest match, where the first word is not
hidden. -/
theorem resolve_eq_ok {words : List String} {resolution : Resolution σ}
    (resolved : registry.resolve store words = .ok resolution) :
    ∃ first rest, words = first :: rest ∧ registry.hides store first = false ∧
      registry.IsLongestMatch store words resolution := by
  cases words with
  | nil => cases resolved
  | cons first rest =>
      rw [resolve] at resolved
      split at resolved
      · cases resolved
      · rename_i shown
        split at resolved
        · rename_i found
          cases resolved
          obtain ⟨matched, longest⟩ := longestMatch?_eq_some (Nat.le_refl _) found
          exact ⟨first, rest, rfl, by simpa using shown, matched, longest⟩
        · cases resolved

/-- Words resolve if the first of them names a command that is not hidden. -/
theorem exists_resolve_of_enabled? {first : String} {rest : List String}
    {command : Command σ} (enabled : registry.enabled? store first = some command) :
    ∃ resolution, registry.resolve store (first :: rest) = .ok resolution := by
  have shown := hides_of_enabled? enabled
  cases found : registry.longestMatch? store (first :: rest) (first :: rest).length with
  | some resolution =>
      refine ⟨resolution, ?_⟩
      rw [resolve, shown, found]
      rfl
  | none =>
      have nothing := longestMatch?_eq_none found 1 (by omega) (by simp)
      rw [List.take_succ_cons, List.take_zero, qualifiedId_singleton, enabled] at nothing
      cases nothing

end Registry

end OperatorShell.Command
