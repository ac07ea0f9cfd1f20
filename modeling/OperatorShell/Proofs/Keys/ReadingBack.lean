import OperatorShell.Proofs.Keys.Chords

/-!
# Reading a chord back

The chord of a key press can be read back as a key press with the same chord, if the key has a name
at all.  One key cannot: with Ctrl, Alt or Meta the capital I with a dot is named by its lower case,
which has two characters, and reading takes a name of two characters for no character.
-/

namespace OperatorShell

namespace Text

theorem number?_concat (base : Nat) (digits : List Char) (digit : Char) :
    number? base (digits ++ [digit]) =
      (number? base digits).bind fun sum => (digitValue? base digit).map (base * sum + ·) := by
  rw [number?, List.foldlM_append]
  simp [number?]

theorem digitValue?_digitChar : ∀ digit < 10, digitValue? 10 digit.digitChar = some digit := by
  decide

/-- Decimal digits write the number that they are the digits of. -/
theorem number?_toDigits (number : Nat) : number? 10 (Nat.toDigits 10 number) = some number := by
  induction number using Nat.strongRecOn with
  | ind number ih =>
      by_cases small : number < 10
      · rw [Nat.toDigits_of_lt_base small, ← List.nil_append [number.digitChar], number?_concat,
          digitValue?_digitChar number small]
        simp [number?]
      · have large := Nat.le_of_not_lt small
        have less : number / 10 < number := by omega
        rw [Nat.toDigits_of_base_le (by decide) large, number?_concat, ih _ less,
          digitValue?_digitChar _ (Nat.mod_lt number (by decide)), Option.bind_some,
          Option.map_some, Nat.div_add_mod]

end Text

namespace Keys

/-- The number of a function key is read back. -/
theorem functionNumber?_toDigits (number : UInt8) :
    functionNumber? (Nat.toDigits 10 number.toNat) = some number := by
  have unsigned : functionNumber? (Nat.toDigits 10 number.toNat) =
      byteOfDigits? (Nat.toDigits 10 number.toNat) := by
    unfold functionNumber?
    split
    · rename_i digits signed
      have isDigit := Nat.isDigit_of_mem_toDigits (b := 10) (n := number.toNat) (c := '+')
        (by decide) (by decide) (by rw [signed]; exact List.mem_cons_self)
      cases isDigit
    · rfl
  have small : number.toNat < 256 := number.toNat_lt
  rw [unsigned, byteOfDigits?, if_neg Nat.toDigits_ne_nil, Text.number?_toDigits]
  simp [Option.filter, small]

section Names

variable {code : KeyCode} {lowered : Bool}

/-- A key other than Tab is read from its own name. -/
theorem readKey?_of_lookup {name : String} {shift : Bool}
    (found : KeyCode.named.lookup name = some code) (other : code ≠ .tab) :
    readKey? name.toList shift = some code := by
  unfold readKey?
  rw [String.ofList_toList, found]
  cases code with
  | tab => exact absurd rfl other
  | _ => rfl

theorem length_of_mem_named : ∀ entry ∈ KeyCode.named, entry.1.toList.length ≠ 1 := by
  decide

theorem head?_of_mem_named : ∀ entry ∈ KeyCode.named, entry.1.toList.head? ≠ some 'f' := by
  decide

theorem lookup_named_eq_none {name : List Char}
    (unnamed : ∀ entry ∈ KeyCode.named, entry.1.toList ≠ name) :
    KeyCode.named.lookup (String.ofList name) = none := by
  rw [List.lookup_eq_none_iff]
  intro entry member
  rw [bne_iff_ne]
  intro same
  apply unnamed entry member
  rw [← same, String.toList_ofList]

/-- A single character is read as the key for this character. -/
theorem readKey?_singleton (character : Char) (shift : Bool) :
    readKey? [character] shift = some (.char character) := by
  have unnamed : KeyCode.named.lookup (String.ofList [character]) = none := by
    apply lookup_named_eq_none
    intro entry member same
    exact length_of_mem_named entry member (congrArg List.length same)
  rw [readKey?, unnamed]

theorem readKey?_function (number : UInt8) (shift : Bool) :
    readKey? ('f' :: Nat.toDigits 10 number.toNat) shift = some (.function number) := by
  have unnamed : KeyCode.named.lookup (String.ofList ('f' :: Nat.toDigits 10 number.toNat)) =
      none := by
    apply lookup_named_eq_none
    intro entry member same
    exact head?_of_mem_named entry member (congrArg List.head? same)
  obtain ⟨first, rest, digits_eq⟩ :=
    List.exists_cons_of_ne_nil (Nat.toDigits_ne_nil (n := number.toNat) (b := 10))
  have read := functionNumber?_toDigits number
  rw [digits_eq] at read unnamed ⊢
  unfold readKey?
  rw [unnamed]
  exact congrArg (Option.map KeyCode.function) read

/-- The name of a key is read as a key with the same name, if the key has a name and the name of a
character is one character. -/
theorem exists_readKey?_name (shift : Bool) (named : code.name lowered ≠ "unknown".toList)
    (single : ¬(code = .char 'İ' ∧ lowered = true)) :
    ∃ key, readKey? (code.name lowered) shift = some key ∧ key.name lowered = code.name lowered ∧
      key.isPrintable = code.isPrintable ∧ (key = .backTab → shift = true) := by
  cases code with
  | char character =>
      by_cases space : character = ' '
      · subst space
        exact ⟨.char ' ', readKey?_of_lookup rfl nofun, rfl, rfl, nofun⟩
      · have expanding (expands : character = 'İ' ∧ lowered = true) : False :=
          single ⟨congrArg KeyCode.char expands.1, expands.2⟩
        obtain ⟨shown, name_eq, final, visible⟩ :=
          KeyCode.exists_name_eq_singleton space expanding
        refine ⟨.char shown, ?_, final.trans name_eq.symm, ?_, nofun⟩
        · rw [name_eq, readKey?_singleton]
        · exact (bne_iff_ne.mpr visible).trans (bne_iff_ne.mpr space).symm
  | function number => exact ⟨.function number, readKey?_function number shift, rfl, rfl, nofun⟩
  | tab | backTab =>
      cases shift with
      | false => exact ⟨.tab, rfl, rfl, rfl, nofun⟩
      | true => exact ⟨.backTab, rfl, rfl, rfl, fun _ => rfl⟩
  | null | capsLock | scrollLock | numLock | printScreen | pause | menu | keypadBegin
  | media _ | modifier _ => exact absurd rfl named
  | _ => exact ⟨_, readKey?_of_lookup rfl nofun, rfl, rfl, nofun⟩

end Names

/-- Reading a chord is reading the name behind the marks. -/
theorem parseChord_chord (event : KeyEvent) :
    parseChord (chord event) =
      (readKey? event.name event.marks.shift).map fun code => ⟨code, event.marks⟩ := by
  rw [parseChord, readMarks_chord]

/-- With the marks of a key press in place of its modifiers, a key shows these marks. -/
theorem KeyEvent.marks_marks {event : KeyEvent} {key : KeyCode}
    (samePrintable : key.isPrintable = event.code.isPrintable)
    (shifted : key = .backTab → event.marks.shift = true) :
    KeyEvent.marks ⟨key, event.marks⟩ = event.marks := by
  have condition : (event.marks.isPlain && key.isPrintable) =
      (event.modifiers.isPlain && event.code.isPrintable) := by
    rw [isPlain_marks, samePrintable]
  have kept : (event.marks.shift || key == .backTab) = event.marks.shift := by
    by_cases backTab : key = .backTab
    · rw [shifted backTab, Bool.true_or]
    · rw [beq_eq_false_iff_ne.mpr backTab, Bool.or_false]
  by_cases typed : (event.modifiers.isPlain && event.code.isPrintable) = true
  · rw [marks, condition, if_pos typed, marks, if_pos typed]
  · rw [marks, condition, if_neg typed, kept, marks, if_neg typed]
    simp [Modifiers.altOrMeta, Modifiers.none]

/-- The chord of a key that has a name is read back as a key press with the same chord, unless the
key is the capital I with a dot and held with Ctrl, Alt or Meta.  With one of these a visible
character is named by its lower case. -/
theorem exists_parseChord_iff {event : KeyEvent} (named : ¬"unknown".toList <:+ chord event) :
    ((∃ read, parseChord (chord event) = some read ∧ chord read = chord event) ↔
      ¬(event.code = .char 'İ' ∧ event.modifiers.isPlain = false)) ∧
    ∀ character, event.code = .char character → character ≠ ' ' →
      event.modifiers.isPlain = false →
        chord event = event.marks.spell ++ Text.toLower character := by
  have hasName : event.name ≠ "unknown".toList := by
    intro unknown
    rw [chord_eq, unknown] at named
    exact named (List.suffix_append _ _)
  have lowered_iff : (!event.modifiers.isPlain) = true ↔ event.modifiers.isPlain = false := by
    rw [Bool.not_eq_true']
  refine ⟨⟨?_, ?_⟩, ?_⟩
  · rintro ⟨read, read_eq, -⟩ ⟨code, held⟩
    have unread : parseChord (chord event) = none := by
      rw [parseChord_chord, KeyEvent.name, code, held]
      rfl
    rw [unread] at read_eq
    cases read_eq
  · intro single
    obtain ⟨key, found, sameName, samePrintable, shifted⟩ :=
      exists_readKey?_name event.marks.shift hasName
        (mt (And.imp_right lowered_iff.mp) single)
    refine ⟨⟨key, event.marks⟩, ?_, ?_⟩
    · rw [parseChord_chord, KeyEvent.name, found]
      rfl
    · rw [chord_eq_chord_iff, KeyEvent.marks_marks samePrintable shifted, KeyEvent.name,
        KeyEvent.isPlain_marks, sameName]
      exact ⟨rfl, rfl⟩
  · intro character code visible held
    rw [chord_eq, KeyEvent.name, code, held]
    exact congrArg (event.marks.spell ++ ·) (KeyCode.name_of_visible_lowered visible)

/-- With Meta and Shift a capital sigma is the chord `meta+shift+σ`, which is read back. -/
theorem exists_parseChord_sigma :
    let event : KeyEvent := ⟨.char 'Σ', { Modifiers.none with metaKey := true, shift := true }⟩
    ¬"unknown".toList <:+ chord event ∧
      ∃ read, parseChord (chord event) = some read ∧ chord read = chord event :=
  ⟨by decide, (exists_parseChord_iff (by decide)).1.mpr (by decide)⟩

/-- With Ctrl the capital I with a dot has a chord that is read as no key press. -/
theorem parseChord_expanding :
    let event : KeyEvent := ⟨.char 'İ', { Modifiers.none with ctrl := true }⟩
    ¬"unknown".toList <:+ chord event ∧
      ¬∃ read, parseChord (chord event) = some read ∧ chord read = chord event := by
  intro event
  refine ⟨by decide, ?_⟩
  rintro ⟨read, read_eq, -⟩
  rw [parseChord_chord] at read_eq
  cases read_eq

end Keys

end OperatorShell
