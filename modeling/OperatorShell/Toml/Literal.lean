import OperatorShell.Text.Digits

/-!
# TOML strings

Strings come in four forms: between double quotes with escapes, or between single
quotes as they are, and each of them on one line or, with tripled quotes, on several.
The readers here start after the opening quotes and give the text with what follows
the closing quotes.
-/

namespace OperatorShell.Toml

open Text

/-- Whether a character can stand in a string: not a control character, apart from the
tabulator. -/
def isTextChar (character : Char) : Bool :=
  character == '\t' || (0x20 ≤ character.toNat && character.toNat != 0x7F)

/-- White space within a line. -/
def isSpace (character : Char) : Bool := character == ' ' || character == '\t'

/-- The character that an escape of one letter stands for. -/
def shortEscape? : Char → Option Char
  | 'b' => some '\x08'
  | 't' => some '\t'
  | 'n' => some '\n'
  | 'f' => some '\x0c'
  | 'r' => some '\r'
  | '"' => some '"'
  | '\\' => some '\\'
  | _ => none

/-- The character with a code point in hexadecimal digits. -/
def escapedChar? (digits : List Char) : Option Char :=
  (number? 16 digits).bind charOfCode?

/-- Read an escape after its backslash. -/
def readEscape? : List Char → Option (Char × List Char)
  | 'u' :: first :: second :: third :: fourth :: rest =>
      (escapedChar? [first, second, third, fourth]).map (·, rest)
  | 'U' :: first :: second :: third :: fourth :: fifth :: sixth :: seventh :: eighth ::
      rest =>
      (escapedChar? [first, second, third, fourth, fifth, sixth, seventh, eighth]).map
        (·, rest)
  | mark :: rest => (shortEscape? mark).map (·, rest)
  | [] => none

theorem length_of_readEscape? {text rest : List Char} {character : Char}
    (found : readEscape? text = some (character, rest)) :
    rest.length < text.length := by
  unfold readEscape? at found
  split at found
  all_goals first
    | (obtain ⟨_, _, equal⟩ := Option.map_eq_some_iff.mp found
       cases equal
       simp only [List.length_cons]
       omega)
    | cases found

/-- Read a string between double quotes. -/
def readBasic? (text : List Char) : Option (List Char × List Char) :=
  match text with
  | [] => none
  | '"' :: rest => some ([], rest)
  | '\\' :: rest =>
      match _found : readEscape? rest with
      | some (character, later) =>
          (readBasic? later).map fun result => (character :: result.1, result.2)
      | none => none
  | character :: rest =>
      if isTextChar character then
        (readBasic? rest).map fun result => (character :: result.1, result.2)
      else none
termination_by text.length
decreasing_by
  all_goals simp only [List.length_cons]
  · have := length_of_readEscape? _found
    omega
  · omega

/-- Read a string between single quotes. -/
def readRaw? : List Char → Option (List Char × List Char)
  | [] => none
  | '\'' :: rest => some ([], rest)
  | character :: rest =>
      if isTextChar character then
        (readRaw? rest).map fun result => (character :: result.1, result.2)
      else none

/-- Skip white space and the ends of lines. -/
def skipBlank : List Char → List Char
  | ' ' :: rest => skipBlank rest
  | '\t' :: rest => skipBlank rest
  | '\n' :: rest => skipBlank rest
  | '\r' :: '\n' :: rest => skipBlank rest
  | text => text

theorem length_skipBlank_le (text : List Char) :
    (skipBlank text).length ≤ text.length := by
  fun_induction skipBlank text with
  | case1 rest ih => simp only [List.length_cons]; omega
  | case2 rest ih => simp only [List.length_cons]; omega
  | case3 rest ih => simp only [List.length_cons]; omega
  | case4 rest ih => simp only [List.length_cons]; omega
  | case5 text => exact Nat.le_refl _

/-- The text after the end of a line, if one is here. -/
def afterBreak? : List Char → Option (List Char)
  | '\n' :: rest => some rest
  | '\r' :: '\n' :: rest => some rest
  | _ => none

theorem length_of_afterBreak? {text rest : List Char}
    (found : afterBreak? text = some rest) : rest.length < text.length := by
  unfold afterBreak? at found
  split at found
  · cases found; simp
  · cases found; simp only [List.length_cons]; omega
  · cases found

/-- The text after a line that a backslash continues: the end of the line, and the
white space around it. -/
def continuation? (text : List Char) : Option (List Char) :=
  (afterBreak? (text.dropWhile isSpace)).map skipBlank

theorem length_of_continuation? {text rest : List Char}
    (found : continuation? text = some rest) : rest.length < text.length := by
  obtain ⟨middle, broken, equal⟩ := Option.map_eq_some_iff.mp found
  subst equal
  have shorter := length_of_afterBreak? broken
  have dropped := (text.dropWhile_sublist isSpace).length_le
  have skipped := length_skipBlank_le middle
  omega

/-- Read a string between tripled double quotes.  Up to two quotes can stand right
before the closing ones, and every end of a line counts as a line feed. -/
def readBasicLines? (text : List Char) : Option (List Char × List Char) :=
  match text with
  | [] => none
  | '"' :: '"' :: '"' :: '"' :: '"' :: rest => some (['"', '"'], rest)
  | '"' :: '"' :: '"' :: '"' :: rest => some (['"'], rest)
  | '"' :: '"' :: '"' :: rest => some ([], rest)
  | '\\' :: rest =>
      match _continued : continuation? rest with
      | some later => readBasicLines? later
      | none =>
          match _found : readEscape? rest with
          | some (character, later) =>
              (readBasicLines? later).map fun result =>
                (character :: result.1, result.2)
          | none => none
  | '\r' :: '\n' :: rest =>
      (readBasicLines? rest).map fun result => ('\n' :: result.1, result.2)
  | character :: rest =>
      if character = '\n' ∨ isTextChar character then
        (readBasicLines? rest).map fun result => (character :: result.1, result.2)
      else none
termination_by text.length
decreasing_by
  all_goals simp only [List.length_cons]
  · have := length_of_continuation? _continued
    omega
  · have := length_of_readEscape? _found
    omega
  · omega
  · omega

/-- Read a string between tripled single quotes. -/
def readRawLines? : List Char → Option (List Char × List Char)
  | [] => none
  | '\'' :: '\'' :: '\'' :: '\'' :: '\'' :: rest => some (['\'', '\''], rest)
  | '\'' :: '\'' :: '\'' :: '\'' :: rest => some (['\''], rest)
  | '\'' :: '\'' :: '\'' :: rest => some ([], rest)
  | '\r' :: '\n' :: rest =>
      (readRawLines? rest).map fun result => ('\n' :: result.1, result.2)
  | character :: rest =>
      if character = '\n' ∨ isTextChar character then
        (readRawLines? rest).map fun result => (character :: result.1, result.2)
      else none

/-- The text without the end of a line at its start. -/
def dropBreak (text : List Char) : List Char := (afterBreak? text).getD text

/-- Read a string of any form, opening quotes included. -/
def readString? : List Char → Option (List Char × List Char)
  | '"' :: '"' :: '"' :: rest => readBasicLines? (dropBreak rest)
  | '"' :: rest => readBasic? rest
  | '\'' :: '\'' :: '\'' :: rest => readRawLines? (dropBreak rest)
  | '\'' :: rest => readRaw? rest
  | _ => none

end OperatorShell.Toml
