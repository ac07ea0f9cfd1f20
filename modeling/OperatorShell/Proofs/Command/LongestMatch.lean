import OperatorShell.Proofs.Command.Registration
import OperatorShell.Proofs.Command.Resolving

/-!
# Resolving longer words

The search starts from the longest run of words, but ids are closed under going up, so a
run names a command only if the first word does.  Whether words resolve is therefore
settled by the first of them, and words that are typed behind it can only lead further
down.
-/

namespace OperatorShell.Command

variable {σ : Type}

/-- What becomes of words, whatever they name. -/
inductive Verdict where
  | found
  | disabled
  | notFound
  deriving DecidableEq, Repr

/-- The kind of an answer. -/
def verdict : Except ResolveError (Resolution σ) → Verdict
  | .ok _ => .found
  | .error (.disabled _) => .disabled
  | .error (.notFound _) => .notFound

section Verdicts

variable {answer : Except ResolveError (Resolution σ)}

theorem verdict_eq_found_iff :
    verdict answer = .found ↔ ∃ resolution, answer = .ok resolution := by
  rcases answer with (_ | _) | _ <;> simp [verdict]

theorem verdict_eq_disabled_iff :
    verdict answer = .disabled ↔ ∃ word, answer = .error (.disabled word) := by
  rcases answer with (_ | _) | _ <;> simp [verdict]

theorem verdict_eq_notFound_iff :
    verdict answer = .notFound ↔ ∃ text, answer = .error (.notFound text) := by
  rcases answer with (_ | _) | _ <;> simp [verdict]

end Verdicts

namespace Registry

variable {registry : Registry σ} {store : σ} {words more : List String}
  {resolution other : Resolution σ}

/-- A match in front of further words is one among all of them. -/
theorem IsMatch.append (matched : registry.IsMatch store words resolution)
    (more : List String) : registry.IsMatch store (words ++ more) resolution := by
  obtain ⟨depth_pos, depth_le, id_eq, enabled⟩ := matched
  constructor
  · exact depth_pos
  · simp only [List.length_append]
    omega
  · rw [List.take_append_of_le_length depth_le]
    exact id_eq
  · exact enabled

theorem IsMatch.of_append (matched : registry.IsMatch store (words ++ more) resolution)
    (within : resolution.depth ≤ words.length) :
    registry.IsMatch store words resolution := by
  obtain ⟨depth_pos, -, id_eq, enabled⟩ := matched
  rw [List.take_append_of_le_length within] at id_eq
  exact ⟨depth_pos, within, id_eq, enabled⟩

namespace IsLongestMatch

/-- No match is longer than the longest. -/
theorem depth_le_depth (longest : registry.IsLongestMatch store words resolution)
    (matched : registry.IsMatch store words other) : other.depth ≤ resolution.depth := by
  apply Nat.le_of_not_lt
  intro deeper
  have nothing := longest.longest other.depth deeper matched.depth_le
  rw [← matched.id_eq, matched.enabled] at nothing
  cases nothing

theorem unique (longest : registry.IsLongestMatch store words resolution)
    (longest' : registry.IsLongestMatch store words other) : resolution = other := by
  have depths : resolution.depth = other.depth :=
    Nat.le_antisymm (longest'.depth_le_depth longest.toIsMatch)
      (longest.depth_le_depth longest'.toIsMatch)
  have ids : resolution.id = other.id := by
    rw [longest.id_eq, longest'.id_eq, depths]
  have commands : some resolution.command = some other.command := by
    rw [← longest.enabled, ← longest'.enabled, ids]
  cases resolution
  cases other
  simp_all

/-- The longest match is still the longest when the words behind it are left out. -/
theorem take (longest : registry.IsLongestMatch store words resolution) :
    registry.IsLongestMatch store (words.take resolution.depth) resolution := by
  have matched := longest.toIsMatch
  rw [← List.take_append_drop resolution.depth words] at matched
  constructor
  · apply matched.of_append
    rw [List.length_take]
    exact Nat.le_min.mpr ⟨Nat.le_refl _, longest.depth_le⟩
  · intro depth deeper within
    rw [List.length_take] at within
    omega

end IsLongestMatch

/-- Words resolve to what is their longest match, where the first word is not hidden. -/
theorem resolve_eq_ok_iff {first : String} {rest : List String} :
    registry.resolve store (first :: rest) = .ok resolution ↔
      registry.hides store first = false ∧
        registry.IsLongestMatch store (first :: rest) resolution := by
  constructor
  · intro resolved
    obtain ⟨_, _, same, shown, longest⟩ := resolve_eq_ok resolved
    cases same
    exact ⟨shown, longest⟩
  · rintro ⟨shown, longest⟩
    rw [resolve, shown]
    cases found : registry.longestMatch? store (first :: rest) (first :: rest).length with
    | none =>
        have nothing := longestMatch?_eq_none found resolution.depth longest.depth_pos
          longest.depth_le
        rw [← longest.id_eq, longest.enabled] at nothing
        cases nothing
    | some other =>
        obtain ⟨matched, none_longer⟩ := longestMatch?_eq_some (Nat.le_refl _) found
        have same : other = resolution :=
          IsLongestMatch.unique ⟨matched, none_longer⟩ longest
        rw [same]
        rfl

/-- Words match only below a first word that is registered. -/
theorem IsForest.mem_ids_of_isMatch (forest : registry.IsForest) {first : String}
    {rest : List String} (matched : registry.IsMatch store (first :: rest) resolution) :
    first ∈ registry.ids := by
  have registered : resolution.id ∈ registry.ids :=
    mem_ids_iff.mpr ⟨_, (enabled?_eq_some_iff.mp matched.enabled).1⟩
  obtain ⟨others, id_eq⟩ := matched.exists_id_eq
  rcases isWithin_qualifiedId first others with same | below
  · rwa [id_eq, same] at registered
  · rw [← id_eq] at below
    exact forest.mem_of_isBelow below registered

section FirstWord

variable {first : String} {command : Command σ}

theorem resolve_of_disabled (known : registry.get? first = some command)
    (hidden : command.isDisabled store = true) (rest : List String) :
    registry.resolve store (first :: rest) = .error (.disabled first) := by
  have hides : registry.hides store first = true := by simp [Registry.hides, known, hidden]
  rw [resolve, if_pos hides]

theorem resolve_of_get?_eq_none (forest : registry.IsForest)
    (unknown : registry.get? first = none) (rest : List String) :
    registry.resolve store (first :: rest) =
      .error (.notFound (" ".intercalate (first :: rest))) := by
  have shown : ¬registry.hides store first = true := by simp [Registry.hides, unknown]
  rw [resolve, if_neg shown]
  cases found : registry.longestMatch? store (first :: rest) (first :: rest).length with
  | none => rfl
  | some resolution =>
      obtain ⟨matched, -⟩ := longestMatch?_eq_some (Nat.le_refl _) found
      obtain ⟨command, known⟩ := mem_ids_iff.mp (forest.mem_ids_of_isMatch matched)
      rw [unknown] at known
      cases known

/-- The verdict on a single word, by looking it up. -/
def wordVerdict (registry : Registry σ) (store : σ) (word : String) : Verdict :=
  match registry.get? word with
  | none => .notFound
  | some command => if command.isDisabled store then .disabled else .found

/-- The first word settles what becomes of all of them. -/
theorem verdict_resolve (forest : registry.IsForest) (first : String)
    (rest : List String) :
    verdict (registry.resolve store (first :: rest)) =
      registry.wordVerdict store first := by
  rw [wordVerdict]
  cases known : registry.get? first with
  | none =>
      rw [resolve_of_get?_eq_none forest known]
      rfl
  | some command =>
      cases hidden : command.isDisabled store with
      | true =>
          rw [resolve_of_disabled known hidden]
          simp [verdict, hidden]
      | false =>
          have enabled := enabled?_eq_some_iff.mpr ⟨known, hidden⟩
          obtain ⟨resolution, resolved⟩ := exists_resolve_of_enabled? enabled
          rw [resolved]
          simp [verdict, hidden]

theorem wordVerdict_eq_found_iff : registry.wordVerdict store first = .found ↔
    ∃ command, registry.get? first = some command ∧ command.isDisabled store = false := by
  rw [wordVerdict]
  cases registry.get? first <;> simp

theorem wordVerdict_eq_disabled_iff : registry.wordVerdict store first = .disabled ↔
    ∃ command, registry.get? first = some command ∧ command.isDisabled store = true := by
  rw [wordVerdict]
  cases registry.get? first <;> simp

theorem wordVerdict_eq_notFound_iff :
    registry.wordVerdict store first = .notFound ↔ registry.get? first = none := by
  rw [wordVerdict]
  cases known : registry.get? first with
  | none => simp
  | some command => cases hidden : command.isDisabled store <;> simp [hidden]

end FirstWord

/-- What is promised of resolving words, and of resolving them with others behind. -/
structure ResolvesLongest (registry : Registry σ) (store : σ) (first : String)
    (rest : List String) : Prop where
  found_iff : (∃ resolution, registry.resolve store (first :: rest) = .ok resolution) ↔
    ∃ command, registry.get? first = some command ∧ command.isDisabled store = false
  disabled_iff :
    (∃ word, registry.resolve store (first :: rest) = .error (.disabled word)) ↔
      ∃ command, registry.get? first = some command ∧ command.isDisabled store = true
  notFound_iff :
    (∃ text, registry.resolve store (first :: rest) = .error (.notFound text)) ↔
      registry.get? first = none
  /-- The answer is made up of the longest run of words that names a command which is
  registered and not hidden. -/
  longest : ∀ resolution, registry.resolve store (first :: rest) = .ok resolution →
    registry.IsLongestMatch store (first :: rest) resolution
  take : ∀ resolution, registry.resolve store (first :: rest) = .ok resolution →
    registry.resolve store ((first :: rest).take resolution.depth) = .ok resolution
  verdict_append : ∀ more, verdict (registry.resolve store (first :: rest ++ more)) =
    verdict (registry.resolve store (first :: rest))
  /-- Further words lead deeper, and only by being part of the answer. -/
  append : ∀ more resolution other,
    registry.resolve store (first :: rest) = .ok resolution →
    registry.resolve store (first :: rest ++ more) = .ok other →
    resolution.depth ≤ other.depth ∧
      (other.depth ≤ (first :: rest).length → other = resolution)

section Answers

variable {first : String} {rest : List String}

theorem resolve_take (resolved : registry.resolve store (first :: rest) = .ok resolution) :
    registry.resolve store ((first :: rest).take resolution.depth) = .ok resolution := by
  obtain ⟨shown, longest⟩ := resolve_eq_ok_iff.mp resolved
  obtain ⟨depth, positive⟩ := Nat.exists_eq_add_one.mpr longest.depth_pos
  have shorter := longest.take
  rw [positive, List.take_succ_cons] at shorter ⊢
  exact resolve_eq_ok_iff.mpr ⟨shown, shorter⟩

/-- Further words lead deeper, and elsewhere only by being part of the answer. -/
theorem depth_le_of_append
    (resolved : registry.resolve store (first :: rest) = .ok resolution)
    (resolved' : registry.resolve store (first :: (rest ++ more)) = .ok other) :
    resolution.depth ≤ other.depth ∧
      (other.depth ≤ (first :: rest).length → other = resolution) := by
  obtain ⟨-, longest⟩ := resolve_eq_ok_iff.mp resolved
  obtain ⟨-, longest'⟩ := resolve_eq_ok_iff.mp resolved'
  rw [← List.cons_append] at longest'
  have deeper := longest'.depth_le_depth (longest.toIsMatch.append more)
  refine ⟨deeper, ?_⟩
  intro within
  have depths := Nat.le_antisymm deeper
    (longest.depth_le_depth (longest'.toIsMatch.of_append within))
  have cut := longest'.take
  rw [List.take_append_of_le_length within, ← depths] at cut
  exact cut.unique longest.take

end Answers

/-- Words resolve by the longest of their runs that names a command which is registered
and not hidden, whether they do is settled by the first of them, and words typed behind
them only lead deeper. -/
theorem resolve_longest (commands : List (Command σ)) (store : σ) (first : String)
    (rest : List String) : (afterCalls commands).ResolvesLongest store first rest := by
  have forest := isForest_afterCalls commands
  constructor
  case found_iff =>
    rw [← verdict_eq_found_iff, verdict_resolve forest, wordVerdict_eq_found_iff]
  case disabled_iff =>
    rw [← verdict_eq_disabled_iff, verdict_resolve forest, wordVerdict_eq_disabled_iff]
  case notFound_iff =>
    rw [← verdict_eq_notFound_iff, verdict_resolve forest, wordVerdict_eq_notFound_iff]
  case longest =>
    intro resolution resolved
    exact (resolve_eq_ok_iff.mp resolved).2
  case take =>
    intro resolution resolved
    exact resolve_take resolved
  case verdict_append =>
    intro more
    rw [List.cons_append, verdict_resolve forest, verdict_resolve forest]
  case append =>
    intro more resolution other resolved resolved'
    exact depth_le_of_append resolved resolved'

end Registry

end OperatorShell.Command
