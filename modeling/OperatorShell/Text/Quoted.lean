import OperatorShell.Text.Printable

/-!
# Quoted texts

The form in which a record shows its texts: between double quotes, with a backslash
before quotes and backslashes, short escapes for the usual control characters, and
the code point in hexadecimal for everything else that is not printable.
-/

namespace OperatorShell.Text

/-- The code point in braces, as in `\\u{301}`. -/
def codePointEscape (character : Char) : List Char :=
  ['\\', 'u', '\x7b'] ++ Nat.toDigits 16 character.toNat ++ ['\x7d']

/-- One character inside a quoted text. -/
def quotedChar (character : Char) : List Char :=
  match character with
  | '"' => ['\\', '"']
  | '\\' => ['\\', '\\']
  | '\n' => ['\\', 'n']
  | '\r' => ['\\', 'r']
  | '\t' => ['\\', 't']
  | '\x00' => ['\\', '0']
  | character =>
      if isPrintable character then [character] else codePointEscape character

/-- A text between double quotes. -/
def quoted (text : String) : String :=
  String.ofList ('"' :: (text.toList.flatMap quotedChar ++ ['"']))

/-- One character inside single quotes, where only the single quote and the
backslash need a mark. -/
def quotedSingle (character : Char) : String :=
  let body :=
    match character with
    | '\'' => ['\\', '\'']
    | '"' => ['"']
    | character => quotedChar character
  String.ofList ('\'' :: (body ++ ['\'']))

end OperatorShell.Text
