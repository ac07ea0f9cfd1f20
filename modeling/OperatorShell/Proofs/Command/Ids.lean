import Mathlib.Data.List.Basic
import OperatorShell.Command.Id

/-!
# Ids below ids

An id lies below another if it goes on with a colon.  The names on the way to a command
hold no colon, so a colon in an id always stands between two levels: joining words leads
below a name only through a first word that is the name or lies below it already.
-/

namespace OperatorShell.Command

/-- The id lies strictly below another. -/
def IsBelow (root id : String) : Prop := root.toList ++ [idSeparator] <+: id.toList

/-- The id is another or lies below it. -/
def IsWithin (root id : String) : Prop := id = root ∨ IsBelow root id

instance (root id : String) : Decidable (IsBelow root id) :=
  inferInstanceAs (Decidable (_ <+: _))

instance (root id : String) : Decidable (IsWithin root id) :=
  inferInstanceAs (Decidable (_ ∨ _))

theorem separator_not_mem_of_isValidName {name : String}
    (valid : isValidName name = true) : idSeparator ∉ name.toList := by
  simp only [isValidName, Bool.and_eq_true] at valid
  simpa using valid.1.2

@[simp] theorem qualifiedId_singleton (word : String) : qualifiedId [word] = word :=
  String.intercalate_singleton

/-- The characters of an id: the first word, then each further word behind a colon. -/
theorem toList_qualifiedId (first : String) (rest : List String) :
    (qualifiedId (first :: rest)).toList =
      first.toList ++ rest.flatMap fun word => idSeparator :: word.toList := by
  induction rest generalizing first with
  | nil => simp [qualifiedId]
  | cons second rest ih =>
      have step : qualifiedId (first :: second :: rest) =
          first ++ String.singleton idSeparator ++ qualifiedId (second :: rest) :=
        String.intercalate_cons_cons
      simp [step, ih]

/-- A text without the separator that is followed by one is a start of what comes before
the first separator of another. -/
theorem append_separator_prefix_iff {root first rest : List Char}
    (plain : idSeparator ∉ root)
    (separated : rest = [] ∨ ∃ more, rest = idSeparator :: more) :
    root ++ [idSeparator] <+: first ++ rest ↔
      first = root ∧ rest ≠ [] ∨ root ++ [idSeparator] <+: first := by
  constructor
  · rintro ⟨more, whole⟩
    rw [List.append_assoc, List.append_eq_append_iff] at whole
    rcases whole with ⟨gap, behind, equal⟩ | ⟨gap, behind, equal⟩
    · cases gap with
      | nil =>
          left
          rw [List.nil_append] at equal
          exact ⟨by simpa using behind, by simp [← equal]⟩
      | cons character gap =>
          right
          obtain ⟨rfl, -⟩ := List.cons.inj equal
          exact ⟨gap, by simp [behind]⟩
    · cases gap with
      | nil =>
          left
          exact ⟨by simpa using behind.symm, by simp [equal]⟩
      | cons character gap =>
          rcases separated with rfl | ⟨others, rfl⟩
          · cases equal
          · obtain ⟨rfl, -⟩ := List.cons.inj equal
            simp [behind] at plain
  · rintro (⟨rfl, nonempty⟩ | starts)
    · rcases separated with rfl | ⟨more, rfl⟩
      · exact (nonempty rfl).elim
      · exact ⟨more, by simp⟩
    · exact starts.trans (List.prefix_append first rest)

/-- A text that is followed by a separator at the start of another is what comes before
its last separator, or lies in there. -/
theorem append_separator_prefix_append_iff {root parent name : List Char}
    (plain : idSeparator ∉ name) :
    root ++ [idSeparator] <+: parent ++ idSeparator :: name ↔
      parent = root ∨ root ++ [idSeparator] <+: parent := by
  constructor
  · rintro ⟨more, whole⟩
    rw [List.append_assoc, List.append_eq_append_iff] at whole
    rcases whole with ⟨gap, behind, equal⟩ | ⟨gap, behind, equal⟩
    · cases gap with
      | nil => exact .inl (by simpa using behind)
      | cons character gap =>
          obtain ⟨rfl, -⟩ := List.cons.inj equal
          exact .inr ⟨gap, by simp [behind]⟩
    · cases gap with
      | nil => exact .inl (by simpa using behind.symm)
      | cons character gap =>
          obtain ⟨-, equal⟩ := List.cons.inj equal
          simp [equal] at plain
  · rintro (rfl | starts)
    · exact ⟨name, by simp⟩
    · exact starts.trans (List.prefix_append parent _)

/-- Joined words lead to a name without a colon or below it just when the first of them
does. -/
theorem isWithin_qualifiedId_iff {root first : String} {rest : List String}
    (plain : idSeparator ∉ root.toList) :
    IsWithin root (qualifiedId (first :: rest)) ↔ IsWithin root first := by
  simp only [IsWithin, IsBelow]
  rw [← String.toList_inj, ← @String.toList_inj first, toList_qualifiedId]
  cases rest with
  | nil => simp
  | cons second rest =>
      rw [List.flatMap_cons, List.cons_append,
        append_separator_prefix_iff plain (.inr ⟨_, rfl⟩)]
      constructor
      · rintro (whole | ⟨equal, -⟩ | below)
        · simp [← whole] at plain
        · exact .inl equal
        · exact .inr below
      · rintro (equal | below)
        · exact .inr (.inl ⟨equal, by simp⟩)
        · exact .inr (.inr below)

/-- Joined words lead to the first of them or below it. -/
theorem isWithin_qualifiedId (first : String) (rest : List String) :
    IsWithin first (qualifiedId (first :: rest)) := by
  cases rest with
  | nil => exact .inl (qualifiedId_singleton first)
  | cons second rest =>
      right
      rw [IsBelow, toList_qualifiedId, List.flatMap_cons, List.cons_append]
      exact ⟨_, by rw [List.append_assoc, List.singleton_append]⟩

/-- An id lies below its parent and below whatever its parent lies below. -/
theorem isBelow_childId_iff {root parent name : String}
    (plain : idSeparator ∉ name.toList) :
    IsBelow root (childId (some parent) name) ↔ IsWithin root parent := by
  simp only [IsWithin, IsBelow]
  rw [← String.toList_inj]
  simpa [childId] using append_separator_prefix_append_iff plain

/-- Nothing lies above a name without a colon. -/
theorem not_isBelow_of_not_mem {root name : String} (plain : idSeparator ∉ name.toList) :
    ¬IsBelow root name := by
  intro below
  exact plain (below.subset (by simp))

end OperatorShell.Command
