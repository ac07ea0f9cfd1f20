import OperatorShell.Json.Literal

/-!
# JSON tokens

A document is read in two steps, and this is the first: its text is cut into brackets,
separators and scalars.  A number is a token only in the form that JSON allows.
-/

namespace OperatorShell.Json

/-- A token of a document. -/
inductive Token where
  | openArray | closeArray | openObject | closeObject | comma | colon
  | null
  | bool (value : Bool)
  /-- A whole number that is not negative. -/
  | natural (value : Nat)
  /-- Any other number. -/
  | number
  /-- A string, with the text that it denotes if it denotes one. -/
  | string (text : Option String)
  deriving DecidableEq, Repr

/-- The white space of JSON. -/
def isSpace (character : Char) : Bool :=
  character == ' ' || character == '\t' || character == '\n' || character == '\r'

/-- The characters of which numbers are made. -/
def isNumberChar (character : Char) : Bool :=
  character.isDigit || ['-', '+', '.', 'e', 'E'].contains character

/-- A text with at least one digit at its start, without those digits. -/
def afterDigits? (text : List Char) : Option (List Char) :=
  match text with
  | [] => none
  | first :: _ =>
      if first.isDigit then some (text.dropWhile Char.isDigit) else none

/-- What may follow the integer part of a number. -/
def isNumberTail (text : List Char) : Bool :=
  let afterFraction :=
    match text with
    | '.' :: rest => afterDigits? rest
    | text => some text
  match afterFraction with
  | none => false
  | some [] => true
  | some (mark :: rest) =>
      if mark = 'e' ∨ mark = 'E' then
        let digits :=
          match rest with
          | '+' :: digits => digits
          | '-' :: digits => digits
          | digits => digits
        afterDigits? digits == some []
      else false

/-- Whether a text without its sign is a number. -/
def isUnsignedNumber : List Char → Bool
  | '0' :: rest => isNumberTail rest
  | text =>
      match afterDigits? text with
      | some rest => isNumberTail rest
      | none => false

/-- The token of a text made of number characters. -/
def numberToken? (text : List Char) : Option Token :=
  match text with
  | '-' :: rest => if isUnsignedNumber rest then some .number else none
  | text =>
      if isUnsignedNumber text then
        match Text.number? 10 text with
        | some value => some (.natural value)
        | none => some .number
      else none

/-- A text after a keyword that it starts with. -/
def afterKeyword? : (keyword text : List Char) → Option (List Char)
  | [], text => some text
  | expected :: keyword, character :: text =>
      if character = expected then afterKeyword? keyword text else none
  | _ :: _, [] => none

theorem length_of_afterKeyword? {keyword text rest : List Char}
    (found : afterKeyword? keyword text = some rest) :
    rest.length ≤ text.length := by
  induction keyword generalizing text with
  | nil => simp_all [afterKeyword?]
  | cons expected keyword ih =>
      cases text with
      | nil => simp [afterKeyword?] at found
      | cons character text =>
          unfold afterKeyword? at found
          split at found
          · exact Nat.le_succ_of_le (ih found)
          · cases found

/-- The token of a single character. -/
def punctuation? : Char → Option Token
  | '[' => some .openArray
  | ']' => some .closeArray
  | '\x7b' => some .openObject
  | '\x7d' => some .closeObject
  | ',' => some .comma
  | ':' => some .colon
  | _ => none

/-- The keyword that starts with a character, without that character. -/
def keyword? : Char → Option (List Char × Token)
  | 'n' => some ("ull".toList, .null)
  | 't' => some ("rue".toList, .bool true)
  | 'f' => some ("alse".toList, .bool false)
  | _ => none

/-- The tokens of a document. -/
def tokens? : List Char → Option (List Token)
  | [] => some []
  | character :: rest =>
      if isSpace character then tokens? rest
      else
        match punctuation? character with
        | some token => (tokens? rest).map (token :: ·)
        | none =>
            if character = '"' then
              match _found : scan rest with
              | some (units, later) =>
                  (tokens? later).map
                    (.string ((denote? units).map String.ofList) :: ·)
              | none => none
            else
              match keyword? character with
              | some (keyword, token) =>
                  match _found : afterKeyword? keyword rest with
                  | some later => (tokens? later).map (token :: ·)
                  | none => none
              | none =>
                  if isNumberChar character then
                    match numberToken? (character :: rest.takeWhile isNumberChar) with
                    | some token =>
                        (tokens? (rest.dropWhile isNumberChar)).map (token :: ·)
                    | none => none
                  else none
termination_by text => text.length
decreasing_by
  all_goals simp only [List.length_cons]
  · omega
  · omega
  · have := length_of_scan _found; omega
  · have := length_of_afterKeyword? _found; omega
  · have := (rest.dropWhile_sublist isNumberChar).length_le; omega

end OperatorShell.Json
