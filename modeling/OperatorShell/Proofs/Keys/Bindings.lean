import OperatorShell.Keys.KeyMap

/-!
# Meanings of one chord

Where a map gives a meaning to one chord only, and types nothing with that meaning, a key has the
meaning exactly when it is that chord.
-/

namespace OperatorShell.Keys.KeyMap

variable {map : KeyMap} {event : KeyEvent} {action : Action}

/-- A bound meaning comes from one of the bindings. -/
theorem exists_mem_of_lookup_bindings {name : String}
    (bound : map.bindings.lookup name = some action) : (name, action) ∈ map.bindings := by
  obtain ⟨front, back, bindings_eq, -⟩ := List.lookup_eq_some_iff.mp bound
  simp [bindings_eq]

/-- The chord of this name has the meaning, and no other key has it. -/
structure BindsOnly (map : KeyMap) (name : String) (action : Action) : Prop where
  bound : map.bindings.lookup name = some action
  unique : ∀ binding ∈ map.bindings, binding.2 = action → binding.1 = name
  typed : ∀ rule ∈ map.fallback, ∀ character, rule character ≠ action

theorem BindsOnly.lookup_eq_iff {name : String} (only : map.BindsOnly name action)
    (event : KeyEvent) : map.lookup event = some action ↔ chord event = name.toList := by
  constructor
  · intro meant
    rw [lookup] at meant
    cases bound : map.bindings.lookup (String.ofList (chord event)) with
    | some other =>
        rw [bound] at meant
        have member := exists_mem_of_lookup_bindings bound
        have named := only.unique _ member (Option.some.inj meant)
        exact String.ofList_injective (named.trans String.ofList_toList.symm)
    | none =>
        rw [bound] at meant
        dsimp only at meant
        split at meant
        · rename_i character rule _ fallback
          split at meant
          · exact absurd (Option.some.inj meant) (only.typed rule fallback character)
          · cases meant
        · cases meant
  · intro pressed
    rw [lookup, pressed, String.ofList_toList, only.bound]

section Editing

theorem bindsOnly_return_editing : editing.BindsOnly "return" .submit where
  bound := rfl
  unique := by decide
  typed rule fallback character := by
    cases fallback
    exact Action.noConfusion

theorem bindsOnly_controlC_editing : editing.BindsOnly "ctrl+c" .interrupt where
  bound := rfl
  unique := by decide
  typed rule fallback character := by
    cases fallback
    exact Action.noConfusion

end Editing

theorem bindsOnly_controlC_commandPrompt : commandPrompt.BindsOnly "ctrl+c" .interrupt where
  bound := rfl
  unique := by decide
  typed rule fallback character := by
    cases fallback
    exact Action.noConfusion

section Picker

theorem bindsOnly_return_picker : picker.BindsOnly "return" .submit where
  bound := rfl
  unique := by decide
  typed rule fallback := by cases fallback

theorem bindsOnly_controlC_picker : picker.BindsOnly "ctrl+c" .interrupt where
  bound := rfl
  unique := by decide
  typed rule fallback := by cases fallback

theorem bindsOnly_escape_picker : picker.BindsOnly "escape" .cancel where
  bound := rfl
  unique := by decide
  typed rule fallback := by cases fallback

/-- The picker map has no rule for characters, so every meaning is bound. -/
theorem mem_bindings_of_lookup_picker (meant : picker.lookup event = some action) :
    (String.ofList (chord event), action) ∈ picker.bindings := by
  rw [lookup] at meant
  cases bound : picker.bindings.lookup (String.ofList (chord event)) with
  | some other =>
      rw [bound] at meant
      obtain rfl := Option.some.inj meant
      exact exists_mem_of_lookup_bindings bound
  | none =>
      rw [bound] at meant
      dsimp only at meant
      split at meant
      · rename_i fallback
        cases fallback
      · cases meant

end Picker

end OperatorShell.Keys.KeyMap
