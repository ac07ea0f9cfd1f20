import OperatorShell.Text.Digits

/-!
# JSON string literals

A text between double quotes.  Quotes, backslashes and control characters are written
as escapes; reading also knows the escapes that writing never uses.  An escape can
name half of a surrogate pair, which stands for a character only together with the
other half: a literal with a lone half is well formed but denotes no text.
-/

namespace OperatorShell.Json

open Text

/-- The last sixteen bits of a code point in four hexadecimal digits. -/
def hexDigits (code : Nat) : List Char :=
  [Nat.digitChar (code / 4096 % 16), Nat.digitChar (code / 256 % 16),
   Nat.digitChar (code / 16 % 16), Nat.digitChar (code % 16)]

/-- One character as it is written inside a literal. -/
def escapeChar (character : Char) : List Char :=
  match character with
  | '"' => ['\\', '"']
  | '\\' => ['\\', '\\']
  | '\x08' => ['\\', 'b']
  | '\x0c' => ['\\', 'f']
  | '\n' => ['\\', 'n']
  | '\r' => ['\\', 'r']
  | '\t' => ['\\', 't']
  | character =>
      if character.toNat < 0x20 then ['\\', 'u'] ++ hexDigits character.toNat
      else [character]

/-- A text as a literal, quotes included. -/
def encode (text : List Char) : List Char :=
  '"' :: (text.flatMap escapeChar ++ ['"'])

/-- What one character or escape of a literal stands for. -/
inductive Unit where
  | char (character : Char)
  /-- The first half of a surrogate pair. -/
  | high (code : Nat)
  /-- The second half of a surrogate pair. -/
  | low (code : Nat)
  deriving DecidableEq, Repr

/-- What a code unit of sixteen bits stands for. -/
def Unit.ofCode (code : Nat) : Unit :=
  if 0xD800 ≤ code ∧ code < 0xDC00 then .high code
  else if 0xDC00 ≤ code ∧ code < 0xE000 then .low code
  else .char (Char.ofNat code)

/-- The character that a short escape stands for. -/
def shortEscape? : Char → Option Char
  | '"' => some '"'
  | '\\' => some '\\'
  | '/' => some '/'
  | 'b' => some '\x08'
  | 'f' => some '\x0c'
  | 'n' => some '\n'
  | 'r' => some '\r'
  | 't' => some '\t'
  | _ => none

/-- Read a literal after its opening quote: its units, and the text after the closing
quote. -/
def scan : List Char → Option (List Unit × List Char)
  | [] => none
  | '"' :: rest => some ([], rest)
  | '\\' :: 'u' :: first :: second :: third :: fourth :: rest =>
      match number? 16 [first, second, third, fourth] with
      | some code =>
          (scan rest).map fun result => (Unit.ofCode code :: result.1, result.2)
      | none => none
  | '\\' :: mark :: rest =>
      match shortEscape? mark with
      | some character =>
          (scan rest).map fun result => (.char character :: result.1, result.2)
      | none => none
  | character :: rest =>
      if character = '\\' ∨ character.toNat < 0x20 then none
      else (scan rest).map fun result => (.char character :: result.1, result.2)

/-- The text that units denote, if every half of a pair has its other half. -/
def denote? : List Unit → Option (List Char)
  | [] => some []
  | .char character :: rest => (denote? rest).map (character :: ·)
  | .high first :: .low second :: rest =>
      (denote? rest).map
        (Char.ofNat (0x10000 + (first - 0xD800) * 0x400 + (second - 0xDC00)) :: ·)
  | _ :: _ => none

theorem length_of_scan {text rest : List Char} {units : List Unit}
    (found : scan text = some (units, rest)) : rest.length < text.length := by
  fun_induction scan text generalizing units rest with
  | case1 => cases found
  | case2 => cases found; simp
  | case3 first second third fourth later code read ih =>
      obtain ⟨⟨more, final⟩, scanned, equal⟩ := Option.map_eq_some_iff.mp found
      cases equal
      have shorter := ih scanned
      simp only [List.length_cons]
      omega
  | case4 => cases found
  | case5 mark later _ character escaped ih =>
      obtain ⟨⟨more, final⟩, scanned, equal⟩ := Option.map_eq_some_iff.mp found
      cases equal
      have shorter := ih scanned
      simp only [List.length_cons]
      omega
  | case6 => cases found
  | case7 => cases found
  | case8 character later _ _ _ allowed ih =>
      obtain ⟨⟨more, final⟩, scanned, equal⟩ := Option.map_eq_some_iff.mp found
      cases equal
      have shorter := ih scanned
      simp only [List.length_cons]
      omega

end OperatorShell.Json
