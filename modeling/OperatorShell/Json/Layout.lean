import OperatorShell.Json.Literal

/-!
# Writing JSON

Documents are written with every item on a line of its own and two spaces for every
level of nesting.  What the items are is up to the caller: a layout puts texts that
are already JSON between brackets.
-/

namespace OperatorShell.Json

/-- The spaces at the start of a line. -/
def indentation (level : Nat) : List Char := List.replicate (2 * level) ' '

/-- Items between brackets that stand on the given level. -/
def bracketed (level : Nat) (opening closing : Char) (items : List (List Char)) :
    List Char :=
  match items with
  | [] => [opening, closing]
  | items =>
      let lines := items.map fun item => '\n' :: (indentation (level + 1) ++ item)
      opening :: ([','].intercalate lines ++ '\n' :: indentation level ++ [closing])

/-- An array. -/
def arrayOf (level : Nat) (items : List (List Char)) : List Char :=
  bracketed level '[' ']' items

/-- An object. -/
def objectOf (level : Nat) (members : List (String × List Char)) : List Char :=
  bracketed level '\x7b' '\x7d'
    (members.map fun entry => encode entry.1.toList ++ [':', ' '] ++ entry.2)

/-- A document that is an array of strings. -/
def renderStrings (texts : List String) : String :=
  String.ofList (arrayOf 0 (texts.map fun text => encode text.toList))

end OperatorShell.Json
