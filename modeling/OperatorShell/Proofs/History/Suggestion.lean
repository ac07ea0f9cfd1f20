import OperatorShell.History

/-!
# What the history suggests

A suggestion is what the newest of the entries that go on behind a text adds to it.
-/

namespace OperatorShell.History

/-- The entry begins with the text and does not end there. -/
def GoesOnBehind (typed : List Char) (entry : String) : Prop :=
  typed <+: entry.toList ∧ typed.length < entry.toList.length

theorem goesOnBehind_iff {typed : List Char} {entry : String} :
    GoesOnBehind typed entry ↔ ∃ rest ≠ [], entry.toList = typed ++ rest := by
  constructor
  · rintro ⟨⟨rest, entry_eq⟩, longer⟩
    refine ⟨rest, ?_, entry_eq.symm⟩
    rintro rfl
    simp [← entry_eq] at longer
  · rintro ⟨rest, nonempty, entry_eq⟩
    have positive := List.length_pos_iff.mpr nonempty
    rw [GoesOnBehind, entry_eq, List.length_append]
    exact ⟨List.prefix_append _ _, by omega⟩

theorem continuation?_eq_some_iff {stem text rest : List Char} :
    continuation? stem text = some rest ↔ text = stem ++ rest := by
  induction stem generalizing text with
  | nil => simp [continuation?]
  | cons expected stem ih =>
      cases text with
      | nil => simp [continuation?]
      | cons character text =>
          rw [continuation?]
          split
          · rename_i same
            simp [ih, same]
          · rename_i different
            simp [different]

/-- What an entry adds to a text. -/
def addition? (typed : List Char) (entry : String) : Option (List Char) :=
  (continuation? typed entry.toList).filter (· ≠ [])

theorem addition?_eq_some_iff {typed rest : List Char} {entry : String} :
    addition? typed entry = some rest ↔ entry.toList = typed ++ rest ∧ rest ≠ [] := by
  simp [addition?, Option.filter_eq_some_iff, continuation?_eq_some_iff]

theorem addition?_eq_none_iff {typed : List Char} {entry : String} :
    addition? typed entry = none ↔ ¬GoesOnBehind typed entry := by
  rw [goesOnBehind_iff, Option.eq_none_iff_forall_ne_some]
  simp only [ne_eq, addition?_eq_some_iff, not_exists, not_and]
  exact forall_congr' fun rest => imp_not_comm

theorem suggestion_eq (history : History) (typed : List Char) :
    history.suggestion typed =
      if typed = [] then none else history.entries.findSome? (addition? typed) := by
  unfold suggestion
  congr 2
  funext entry
  unfold addition?
  rcases continuation? typed entry.toList with _ | _ | ⟨first, rest⟩ <;> rfl

/-- The suggestion is taken from the newest entry that goes on behind the text. -/
theorem suggestion_eq_some_iff {history : History} {typed rest : List Char} :
    history.suggestion typed = some rest ↔
      typed ≠ [] ∧ ∃ newer entry older, history.entries = newer ++ entry :: older ∧
        (entry.toList = typed ++ rest ∧ rest ≠ []) ∧
        ∀ other ∈ newer, ¬GoesOnBehind typed other := by
  rw [suggestion_eq]
  split
  · rename_i empty
    simp [empty]
  · rename_i nonempty
    simp only [List.findSome?_eq_some_iff, addition?_eq_some_iff, addition?_eq_none_iff]
    exact (and_iff_right nonempty).symm

end OperatorShell.History
