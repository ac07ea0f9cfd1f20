import Mathlib.Data.List.Basic
import OperatorShell.Json.Basic
import OperatorShell.Json.Layout

/-!
# Arrays of strings read back

A document that is written as an array of strings is read as that array: every literal is
scanned back to its text, the layout between the literals is white space, and the reader
collects the items in their order.  This holds for every text, whatever has to be escaped.
-/

namespace OperatorShell.Json

open Text

section Literals

@[simp] theorem hexValue?_digitChar {digit : Nat} (small : digit < 16) :
    hexValue? (Nat.digitChar digit) = some digit := by
  revert digit
  decide

/-- Four hexadecimal digits read back to the code they were written for. -/
theorem number?_hexDigits {code : Nat} (small : code < 0x10000) :
    number? 16 (hexDigits code) = some code := by
  have digit (value : Nat) :
      digitValue? 16 (Nat.digitChar (value % 16)) = some (value % 16) := by
    have below := Nat.mod_lt value (y := 16) (by decide)
    simp [digitValue?, below]
  simp [number?, hexDigits, digit]
  omega

/-- A character that needs no escape stands for itself. -/
theorem scan_cons_of_plain {character : Char} (notQuote : character ≠ '"')
    (notBackslash : character ≠ '\\') (visible : ¬character.toNat < 0x20) (rest : List Char) :
    scan (character :: rest) =
      (scan rest).map fun result => (.char character :: result.1, result.2) := by
  rw [scan.eq_def]
  split
  case h_1 none => cases none
  case h_2 quote => exact absurd (List.cons.inj quote).1 notQuote
  case h_3 escape => exact absurd (List.cons.inj escape).1 notBackslash
  case h_4 escape => exact absurd (List.cons.inj escape).1 notBackslash
  case h_5 same =>
    obtain ⟨rfl, rfl⟩ := List.cons.inj same
    exact if_neg (not_or.mpr ⟨notBackslash, visible⟩)

/-- What is written for a character is read as that character. -/
theorem scan_escapeChar (character : Char) (rest : List Char) :
    scan (escapeChar character ++ rest) =
      (scan rest).map fun result => (.char character :: result.1, result.2) := by
  unfold escapeChar
  split
  -- The characters with an escape of their own.
  any_goals rfl
  rename_i notQuote notBackslash _ _ _ _ _
  split
  · rename_i control
    have small : character.toNat < 0x10000 := by omega
    have read := number?_hexDigits small
    have unit : Unit.ofCode character.toNat = .char character := by
      rw [Unit.ofCode, if_neg (by omega), if_neg (by omega), Char.ofNat_toNat]
    simp only [hexDigits] at read
    simp only [hexDigits, List.cons_append, List.nil_append, scan, read, unit]
  · rename_i visible
    exact scan_cons_of_plain notQuote notBackslash visible rest

theorem scan_escaped (text rest : List Char) :
    scan (text.flatMap escapeChar ++ '"' :: rest) = some (text.map .char, rest) := by
  induction text with
  | nil => rfl
  | cons character text ih =>
      rw [List.flatMap_cons, List.append_assoc, scan_escapeChar, ih]
      rfl

theorem denote?_map_char (text : List Char) : denote? (text.map .char) = some text := by
  induction text with
  | nil => rfl
  | cons character text ih => simp [denote?, ih]

end Literals

section Tokens

theorem tokens?_spaces {spaces : List Char}
    (space : ∀ character ∈ spaces, isSpace character = true) (rest : List Char) :
    tokens? (spaces ++ rest) = tokens? rest := by
  induction spaces with
  | nil => rfl
  | cons character spaces ih =>
      obtain ⟨first, others⟩ := List.forall_mem_cons.mp space
      rw [List.cons_append, tokens?, if_pos first, ih others]

/-- A new line with its indentation is white space. -/
theorem tokens?_newline (level : Nat) (rest : List Char) :
    tokens? ('\n' :: indentation level ++ rest) = tokens? rest := by
  apply tokens?_spaces
  simp only [indentation, List.mem_cons, List.mem_replicate]
  rintro character (rfl | ⟨-, rfl⟩) <;> rfl

theorem punctuation?_of_isSpace {character : Char} (space : isSpace character = true) :
    punctuation? character = none := by
  simp only [isSpace, Bool.or_eq_true, beq_iff_eq] at space
  rcases space with ((rfl | rfl) | rfl) | rfl <;> rfl

theorem tokens?_punctuation {character : Char} {token : Token}
    (mark : punctuation? character = some token) (rest : List Char) :
    tokens? (character :: rest) = (tokens? rest).map (token :: ·) := by
  have visible : ¬isSpace character = true := by
    intro space
    rw [punctuation?_of_isSpace space] at mark
    cases mark
  rw [tokens?, if_neg visible, mark]

/-- A literal is one token, and it denotes the text it was written for. -/
theorem tokens?_encode (text rest : List Char) :
    tokens? (encode text ++ rest) =
      (tokens? rest).map (.string (some (String.ofList text)) :: ·) := by
  have scanned := scan_escaped text rest
  have quoted : encode text ++ rest = '"' :: (text.flatMap escapeChar ++ '"' :: rest) := by
    simp [encode]
  rw [quoted, tokens?, if_neg (by decide), show punctuation? '"' = none from rfl]
  simp only [if_true]
  split
  · rename_i units later found
    rw [scanned] at found
    cases found
    rw [denote?_map_char]
    rfl
  · rename_i missing
    rw [scanned] at missing
    cases missing

end Tokens

section Documents

/-- An item of a document that is an array of strings, on a line of its own. -/
def itemLine (text : String) : List Char := '\n' :: indentation 1 ++ encode text.toList

/-- What stands behind an item of such a document when the given texts are to come. -/
def furtherLines : List String → List Char
  | [] => '\n' :: indentation 0 ++ [']']
  | text :: texts => ',' :: (itemLine text ++ furtherLines texts)

/-- The tokens of what stands behind an item. -/
def furtherTokens : List String → List Token
  | [] => [.closeArray]
  | text :: texts => .comma :: .string (some text) :: furtherTokens texts

/-- A document with items is written line by line. -/
theorem toList_renderStrings_cons (text : String) (texts : List String) :
    (renderStrings (text :: texts)).toList = '[' :: (itemLine text ++ furtherLines texts) := by
  have lines :
      [','].intercalate ((text :: texts).map itemLine) ++ '\n' :: indentation 0 ++ [']'] =
        itemLine text ++ furtherLines texts := by
    induction texts generalizing text with
    | nil => simp [furtherLines]
    | cons next texts ih =>
        have rest := ih next
        simp only [List.map_cons, List.intercalate_cons_cons, List.append_assoc] at rest ⊢
        rw [rest]
        rfl
  have items : (texts.map fun text => encode text.toList).map
      (fun item => '\n' :: (indentation 1 ++ item)) = texts.map itemLine := List.map_map
  rw [← lines, List.map_cons, ← items, renderStrings, String.toList_ofList]
  rfl

theorem tokens?_itemLine (text : String) (rest : List Char) :
    tokens? (itemLine text ++ rest) = (tokens? rest).map (.string (some text) :: ·) := by
  rw [itemLine, List.append_assoc, tokens?_newline, tokens?_encode, String.ofList_toList]

theorem tokens?_furtherLines (texts : List String) :
    tokens? (furtherLines texts) = some (furtherTokens texts) := by
  induction texts with
  | nil =>
      have closing : punctuation? ']' = some .closeArray := rfl
      rw [furtherLines, tokens?_newline, tokens?_punctuation closing, tokens?]
      rfl
  | cons text texts ih =>
      have comma : punctuation? ',' = some .comma := rfl
      rw [furtherLines, tokens?_punctuation comma, tokens?_itemLine, ih]
      rfl

/-- Behind an item the reader takes the others and closes the array. -/
theorem foldlM_furtherTokens (texts : List String) (stack : List Frame) (items : List Json)
    (value : Json) :
    (furtherTokens texts).foldlM Reader.step? ⟨.array items :: stack, .afterValue value⟩ =
      some ⟨stack, .afterValue
        (.array (items.reverse ++ value :: texts.map fun text => .string (some text)))⟩ := by
  induction texts generalizing items value with
  | nil => simp [furtherTokens, Reader.step?, Reader.takeAfter?]
  | cons text texts ih =>
      have taken := ih (value :: items) (.string (some text))
      rw [List.reverse_cons, List.append_assoc] at taken
      exact taken

/-- What is written as an array of strings is read as that array. -/
theorem parse?_renderStrings (texts : List String) :
    parse? (renderStrings texts) =
      some (.array (texts.map fun text => .string (some text))) := by
  match texts with
  | [] =>
      have tokens : tokens? (renderStrings []).toList = some [.openArray, .closeArray] := by
        simp [renderStrings, arrayOf, bracketed, tokens?, isSpace, punctuation?]
      rw [parse?, tokens]
      rfl
  | text :: texts =>
      have tokens : tokens? (renderStrings (text :: texts)).toList =
          some (.openArray :: .string (some text) :: furtherTokens texts) := by
        have opening : punctuation? '[' = some .openArray := rfl
        rw [toList_renderStrings_cons, tokens?_punctuation opening, tokens?_itemLine,
          tokens?_furtherLines]
        rfl
      have read := foldlM_furtherTokens texts [] [] (.string (some text))
      rw [parse?, tokens]
      exact congrArg (Option.bind · Reader.result?) read

theorem strings?_array (texts : List String) :
    strings? (.array (texts.map fun text => .string (some text))) = some texts := by
  induction texts with
  | nil => rfl
  | cons text texts ih =>
      simp only [strings?, List.map_cons, List.mapM_cons] at ih ⊢
      rw [ih]
      rfl

end Documents

end OperatorShell.Json
