/-!
# Qualified ids

A command is registered under the names on the way to it, joined by colons.  Words
that the operator types are joined in the same way, and a usage text shows an id with
spaces in place of the colons.
-/

namespace OperatorShell.Command

/-- The character between the levels of an id. -/
def idSeparator : Char := ':'

/-- The id of words from the top level down. -/
def qualifiedId (words : List String) : String :=
  (String.singleton idSeparator).intercalate words

/-- The id of a command below a parent, or of a top-level command. -/
def childId (parent : Option String) (name : String) : String :=
  match parent with
  | some parent => parent ++ String.singleton idSeparator ++ name
  | none => name

/-- The id as an operator would type it. -/
def usage (id : String) : String :=
  String.ofList (id.toList.map fun character =>
    if character = idSeparator then ' ' else character)

/-- Whether a command may have the name: ids and lines could not tell an empty name
or one with a colon or a space from other names. -/
def isValidName (name : String) : Bool :=
  name != "" && !name.toList.contains idSeparator && !name.toList.contains ' '

end OperatorShell.Command
