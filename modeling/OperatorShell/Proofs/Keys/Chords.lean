import OperatorShell.Keys.Stack
import OperatorShell.Proofs.Keys.Typing
import OperatorShell.Proofs.Text.LowerCase

/-!
# Keys with one chord

A chord shows the marks of a key press and the name of the key, and taking the marks off gives both
back.  So key presses have one chord exactly when they have the same marks and the same name.  Which
character such a key types, if it types one, is the same too, and no key map can tell them apart.
-/

namespace OperatorShell.Keys

/-- The marks of modifiers, as a chord starts with them. -/
def Modifiers.spell (modifiers : Modifiers) : List Char :=
  modifierMark modifiers.ctrl "ctrl+" ++ modifierMark modifiers.altOrMeta "meta+" ++
    modifierMark modifiers.shift "shift+"

namespace KeyEvent

/-- The modifiers that the chord of a key press shows, with Alt for Meta as well. -/
def marks (event : KeyEvent) : Modifiers :=
  if event.modifiers.isPlain && event.code.isPrintable then .none
  else
    { Modifiers.none with
      alt := event.modifiers.altOrMeta
      ctrl := event.modifiers.ctrl
      shift := event.modifiers.shift || event.code == .backTab }

/-- The name of the key, as the chord of a key press shows it. -/
def name (event : KeyEvent) : List Char := event.code.name (!event.modifiers.isPlain)

@[simp] theorem isPlain_marks (event : KeyEvent) :
    event.marks.isPlain = event.modifiers.isPlain := by
  unfold marks
  split
  · rename_i typed
    exact (Bool.and_eq_true_iff.mp typed).1.symm
  · simp [Modifiers.isPlain, Modifiers.altOrMeta, Modifiers.none]

end KeyEvent

/-- A chord is the marks with the name behind them. -/
theorem chord_eq (event : KeyEvent) : chord event = event.marks.spell ++ event.name := by
  by_cases typed : (event.modifiers.isPlain && event.code.isPrintable) = true
  · have plain := (Bool.and_eq_true_iff.mp typed).1
    rw [chord, KeyEvent.marks, if_pos typed, if_pos typed, KeyEvent.name, plain]
    rfl
  · rw [chord, KeyEvent.marks, if_neg typed, if_neg typed, Modifiers.spell]
    simp [Modifiers.altOrMeta, Modifiers.none, KeyEvent.name]

section Marks

variable {mark text rest : List Char}

theorem afterMark?_append (mark rest : List Char) : afterMark? mark (mark ++ rest) = some rest := by
  induction mark with
  | nil => rfl
  | cons expected mark ih => rw [List.cons_append, afterMark?, if_pos rfl, ih]

theorem afterMark?_eq_none_of_short (short : text.length < mark.length) :
    afterMark? mark text = none := by
  rw [Option.eq_none_iff_forall_ne_some]
  intro rest found
  have := length_of_afterMark? found
  omega

/-- A single character is shorter than every mark. -/
theorem readMark?_singleton (character : Char) (modifiers : Modifiers) :
    readMark? [character] modifiers = none := by
  have absent (mark : String) (long : 1 < mark.toList.length) :
      afterMark? mark.toList [character] = none :=
    afterMark?_eq_none_of_short long
  rw [readMark?, absent "ctrl+" (by decide), absent "meta+" (by decide), absent "shift+" (by decide)]

theorem readMarks_of_some {modifiers later : Modifiers}
    (found : readMark? text modifiers = some (rest, later)) :
    readMarks text modifiers = readMarks rest later := by
  rw [readMarks]
  split
  · rename_i found'
    rw [found] at found'
    cases found'
    rfl
  · rename_i absent
    rw [found] at absent
    cases absent

theorem readMarks_of_none {modifiers : Modifiers} (absent : readMark? text modifiers = none) :
    readMarks text modifiers = (text, modifiers) := by
  rw [readMarks]
  split
  · rename_i found
    rw [absent] at found
    cases found
  · rfl

theorem readMarks_ctrl (held : Bool) (rest : List Char) (modifiers : Modifiers) :
    readMarks (modifierMark held "ctrl+" ++ rest) modifiers =
      readMarks rest { modifiers with ctrl := held || modifiers.ctrl } := by
  cases held with
  | false => rfl
  | true =>
      apply readMarks_of_some
      rw [modifierMark, if_pos rfl, readMark?, afterMark?_append]
      rfl

theorem readMarks_meta (held : Bool) (rest : List Char) (modifiers : Modifiers) :
    readMarks (modifierMark held "meta+" ++ rest) modifiers =
      readMarks rest { modifiers with alt := held || modifiers.alt } := by
  cases held with
  | false => rfl
  | true =>
      apply readMarks_of_some
      have noCtrl : afterMark? "ctrl+".toList ("meta+".toList ++ rest) = none := rfl
      rw [modifierMark, if_pos rfl, readMark?, noCtrl, afterMark?_append]
      rfl

theorem readMarks_shift (held : Bool) (rest : List Char) (modifiers : Modifiers) :
    readMarks (modifierMark held "shift+" ++ rest) modifiers =
      readMarks rest { modifiers with shift := held || modifiers.shift } := by
  cases held with
  | false => rfl
  | true =>
      apply readMarks_of_some
      have noCtrl : afterMark? "ctrl+".toList ("shift+".toList ++ rest) = none := rfl
      have noMeta : afterMark? "meta+".toList ("shift+".toList ++ rest) = none := rfl
      rw [modifierMark, if_pos rfl, readMark?, noCtrl, noMeta, afterMark?_append]
      rfl

/-- The marks come off one by one, down to a name that starts with none. -/
theorem readMarks_spell (ctrl alt shift : Bool) {name : List Char}
    (bare : ∀ modifiers, readMark? name modifiers = none) :
    let marks : Modifiers := { Modifiers.none with ctrl, alt, shift }
    readMarks (marks.spell ++ name) .none = (name, marks) := by
  intro marks
  rw [Modifiers.spell, List.append_assoc, List.append_assoc, readMarks_ctrl, readMarks_meta,
    readMarks_shift, readMarks_of_none (bare _)]
  simp [marks, Modifiers.none, Modifiers.altOrMeta]

end Marks

namespace KeyCode

variable {code : KeyCode} {character : Char}

/-- With Ctrl, Alt or Meta a visible character is named by its lower case. -/
theorem name_of_visible_lowered (visible : character ≠ ' ') :
    (KeyCode.char character).name true = Text.toLower character := by
  unfold name
  split
  · rename_i space
    exact absurd (char.inj space) visible
  · rename_i same
    rw [char.inj same]
    rfl
  all_goals
    rename_i other
    cases other

/-- A visible character has a name of one character, which is its own name; one character has not
when it is lowered. -/
theorem exists_name_eq_singleton {lowered : Bool} (visible : character ≠ ' ')
    (single : ¬(character = 'İ' ∧ lowered = true)) :
    ∃ shown, (KeyCode.char character).name lowered = [shown] ∧
      (KeyCode.char shown).name lowered = [shown] ∧ shown ≠ ' ' := by
  cases lowered with
  | false => exact ⟨character, name_of_visible visible, name_of_visible visible, visible⟩
  | true =>
      obtain ⟨shown, lower, final, stays⟩ := Text.exists_toLower_eq (single ⟨·, rfl⟩)
      refine ⟨shown, ?_, ?_, stays visible⟩
      · rw [name_of_visible_lowered visible, lower]
      · rw [name_of_visible_lowered (stays visible), final]

/-- The name of a key starts with no mark. -/
theorem readMark?_name (code : KeyCode) (lowered : Bool) (modifiers : Modifiers) :
    readMark? (code.name lowered) modifiers = none := by
  cases code with
  | char character =>
      by_cases space : character = ' '
      · subst space
        rfl
      by_cases expanding : character = 'İ' ∧ lowered = true
      · obtain ⟨rfl, rfl⟩ := expanding
        rfl
      · obtain ⟨shown, name_eq, -⟩ := exists_name_eq_singleton space expanding
        rw [name_eq]
        exact readMark?_singleton shown modifiers
  | _ => rfl

/-- Only a key for a character has a name of one character. -/
theorem exists_eq_char_of_name_eq {lowered : Bool} (single : code.name lowered = [character]) :
    ∃ typed, code = .char typed := by
  cases code with
  | char typed => exact ⟨typed, rfl⟩
  | function number => exact absurd (List.cons.inj single).2 Nat.toDigits_ne_nil
  | _ => cases single

/-- No other key has the name that a key for a character has by itself. -/
theorem eq_char_of_name_eq (same : code.name false = (KeyCode.char character).name false) :
    code = .char character := by
  by_cases space : character = ' '
  · subst space
    cases code with
    | char typed =>
        by_cases visible : typed = ' '
        · rw [visible]
        · rw [name_of_visible visible] at same
          cases same
    | _ => cases same
  · rw [name_of_visible space] at same
    obtain ⟨typed, rfl⟩ := exists_eq_char_of_name_eq same
    by_cases visible : typed = ' '
    · subst visible
      cases same
    · rw [name_of_visible visible] at same
      rw [List.singleton_inj.mp same]

end KeyCode

/-- Taking the marks off a chord gives the name and the marks of the key press. -/
theorem readMarks_chord (event : KeyEvent) :
    readMarks (chord event) .none = (event.name, event.marks) := by
  have bare := event.code.readMark?_name (!event.modifiers.isPlain)
  rw [chord_eq, KeyEvent.marks]
  split
  · exact readMarks_spell false false false bare
  · exact readMarks_spell _ _ _ bare

/-- Key presses have one chord exactly when they have the same marks and the same name. -/
theorem chord_eq_chord_iff {left right : KeyEvent} :
    chord left = chord right ↔ left.marks = right.marks ∧ left.name = right.name := by
  constructor
  · intro same
    have parts := congrArg (readMarks · .none) same
    simp only [readMarks_chord, Prod.mk.injEq] at parts
    exact parts.symm
  · rintro ⟨sameMarks, sameName⟩
    rw [chord_eq, chord_eq, sameMarks, sameName]

section Typing

/-- Marks and name tell which character a key press types, if it types one. -/
theorem KeyEvent.typed?_eq_some_iff_name {event : KeyEvent} {character : Char} :
    event.typed? = some character ↔
      event.marks.isPlain = true ∧ event.name = (KeyCode.char character).name false := by
  rw [typed?_eq_some_iff, isPlain_marks, and_comm]
  apply and_congr_right
  intro plain
  rw [name, plain]
  constructor
  · intro code
    rw [code]
    rfl
  · exact KeyCode.eq_char_of_name_eq

theorem typed?_eq_of_chord_eq {left right : KeyEvent} (same : chord left = chord right) :
    left.typed? = right.typed? := by
  obtain ⟨sameMarks, sameName⟩ := chord_eq_chord_iff.mp same
  apply Option.ext
  intro character
  rw [KeyEvent.typed?_eq_some_iff_name, KeyEvent.typed?_eq_some_iff_name, sameMarks, sameName]

end Typing

namespace KeyMap

/-- What is not bound falls back to the rule for characters, with the character that is typed. -/
theorem lookup_eq_or (map : KeyMap) (event : KeyEvent) :
    map.lookup event =
      (map.bindings.lookup (String.ofList (chord event))).or
        (event.typed?.bind fun character => map.fallback.map (· character)) := by
  unfold lookup KeyEvent.typed?
  cases map.bindings.lookup (String.ofList (chord event)) with
  | some action => rfl
  | none =>
      cases event.code with
      | char character => cases map.fallback <;> cases event.modifiers.isPlain <;> rfl
      | _ => rfl

theorem lookup_congr (map : KeyMap) {left right : KeyEvent} (same : chord left = chord right) :
    map.lookup left = map.lookup right := by
  rw [lookup_eq_or, lookup_eq_or, same, typed?_eq_of_chord_eq same]

/-- A key map gives all keys with one chord the same meaning, and so does every stack of maps. -/
theorem lookup_eq_of_chord_eq (map : KeyMap) {left right : KeyEvent}
    (same : chord left = chord right) :
    map.lookup left = map.lookup right ∧
      ∀ stack : KeyMapStack, stack.dispatch left = stack.dispatch right := by
  refine ⟨map.lookup_congr same, ?_⟩
  intro stack
  unfold KeyMapStack.dispatch
  split
  · rename_i top _ _
    exact top.lookup_congr same
  · rfl

/-- Shift does not show in the chord of a visible character, and it does not change its meaning. -/
theorem lookup_shifted_letter :
    let shifted : KeyEvent := ⟨.char 'Q', { Modifiers.none with shift := true }⟩
    let unshifted : KeyEvent := .plain (.char 'Q')
    chord shifted = chord unshifted ∧ editing.lookup shifted = editing.lookup unshifted ∧
      ∀ stack : KeyMapStack, stack.dispatch shifted = stack.dispatch unshifted :=
  ⟨rfl, editing.lookup_eq_of_chord_eq rfl⟩

end KeyMap

end OperatorShell.Keys
