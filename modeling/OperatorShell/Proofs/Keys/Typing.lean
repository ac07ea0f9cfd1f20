import OperatorShell.Keys.KeyMap
import OperatorShell.Proofs.Edit.Veil

/-!
# Keys that type characters

While a line is edited, a key for a character inserts that character, whichever it is: only
the space has a name of its own, and that name is bound to the space.  No other key
inserts anything else, so a key press can be veiled before it is looked up or after.
-/

namespace OperatorShell.Keys

open Edit

namespace KeyEvent

/-- The character that the key types. -/
def typed? (event : KeyEvent) : Option Char :=
  match event.code with
  | .char character => if event.modifiers.isPlain then some character else none
  | _ => none

theorem typed?_eq_some_iff {event : KeyEvent} {character : Char} :
    event.typed? = some character ↔
      event.code = .char character ∧ event.modifiers.isPlain = true := by
  unfold typed?
  split <;> simp_all [and_comm]

/-- The key press with the character that it types veiled. -/
def veil (event : KeyEvent) : KeyEvent :=
  match event.typed? with
  | some character => { event with code := .char (Text.veil character) }
  | none => event

theorem typed?_veil (event : KeyEvent) : event.veil.typed? = event.typed?.map Text.veil := by
  unfold veil
  split
  · rename_i typed
    rw [typed, Option.map_some, typed?_eq_some_iff]
    exact ⟨rfl, (typed?_eq_some_iff.mp typed).2⟩
  · rename_i untyped
    rw [untyped]
    rfl

end KeyEvent

/-- A visible character is named by itself. -/
theorem KeyCode.name_of_visible {character : Char} (visible : character ≠ ' ') :
    (KeyCode.char character).name false = [character] := by
  unfold KeyCode.name
  split
  · rename_i space
    exact absurd (KeyCode.char.inj space) visible
  · rename_i same
    rw [KeyCode.char.inj same]
    rfl
  all_goals
    rename_i other
    cases other

section Chords

variable {event : KeyEvent}

theorem chord_of_visible {character : Char} (typed : event.typed? = some character)
    (visible : character ≠ ' ') : chord event = [character] := by
  obtain ⟨code, plain⟩ := KeyEvent.typed?_eq_some_iff.mp typed
  have printable : event.code.isPrintable = true := by
    rw [code]
    exact bne_iff_ne.mpr visible
  rw [chord, plain, printable, Bool.and_self, if_pos rfl, code,
    KeyCode.name_of_visible visible]

theorem chord_of_space (typed : event.typed? = some ' ') :
    chord event =
      if event.modifiers.shift then "shift+space".toList else "space".toList := by
  obtain ⟨code, ⟨alt, ctrl, hyper, metaKey, shift, super⟩⟩ := event
  obtain ⟨rfl, plain⟩ := KeyEvent.typed?_eq_some_iff.mp typed
  simp only [Modifiers.isPlain, Modifiers.altOrMeta, Bool.and_eq_true, Bool.not_eq_true',
    Bool.or_eq_false_iff] at plain
  obtain ⟨rfl, rfl, rfl⟩ := plain
  cases shift <;> rfl

end Chords

namespace KeyMap

section Editing

theorem length_chord_of_mem_editing :
    ∀ binding ∈ editing.bindings, binding.1.toList.length ≠ 1 := by
  decide

theorem veil_action_of_mem_editing :
    ∀ binding ∈ editing.bindings, binding.2.veil = binding.2 := by
  decide

/-- No visible character is bound. -/
theorem lookup_bindings_editing (character : Char) :
    editing.bindings.lookup (String.ofList [character]) = none := by
  rw [List.lookup_eq_none_iff]
  intro binding member
  rw [bne_iff_ne]
  intro same
  have long := length_chord_of_mem_editing binding member
  rw [← same] at long
  simp at long

variable {event : KeyEvent}

/-- What is not bound is inserted if it is a character. -/
theorem lookup_editing_of_unbound
    (unbound : editing.bindings.lookup (String.ofList (chord event)) = none) :
    editing.lookup event = event.typed?.map .insert := by
  rw [lookup, unbound, KeyEvent.typed?]
  cases event.code with
  | char character => cases event.modifiers.isPlain <;> rfl
  | _ => rfl

/-- A key that types a character means to insert it. -/
theorem lookup_editing_of_typed {character : Char} (typed : event.typed? = some character) :
    editing.lookup event = some (.insert character) := by
  have fallsBack : editing.bindings.lookup (String.ofList (chord event)) = none →
      editing.lookup event = some (.insert character) := by
    intro unbound
    rw [lookup_editing_of_unbound unbound, typed]
    rfl
  by_cases space : character = ' '
  · subst space
    have named := chord_of_space typed
    cases shift : event.modifiers.shift with
    | true =>
        apply fallsBack
        rw [named, shift]
        decide
    | false =>
        rw [lookup, named, shift]
        rfl
  · apply fallsBack
    rw [chord_of_visible typed space]
    exact lookup_bindings_editing character

/-- Veiling a key press veils its meaning. -/
theorem lookup_editing_veil (event : KeyEvent) :
    editing.lookup event.veil = (editing.lookup event).map Action.veil := by
  cases typed : event.typed? with
  | some character =>
      have veiled := event.typed?_veil
      rw [typed] at veiled
      rw [lookup_editing_of_typed typed, lookup_editing_of_typed veiled]
      rfl
  | none =>
      have same : event.veil = event := by rw [KeyEvent.veil, typed]
      rw [same]
      cases bound : editing.bindings.lookup (String.ofList (chord event)) with
      | some action =>
          obtain ⟨front, back, bindings_eq, -⟩ := List.lookup_eq_some_iff.mp bound
          have kept := veil_action_of_mem_editing (String.ofList (chord event), action)
            (by simp [bindings_eq])
          rw [lookup, bound]
          exact congrArg some kept.symm
      | none =>
          rw [lookup_editing_of_unbound bound, typed]
          rfl

end Editing

end KeyMap

end OperatorShell.Keys
