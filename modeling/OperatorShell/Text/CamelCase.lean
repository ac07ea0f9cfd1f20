import OperatorShell.Text.Case

/-!
# Camel case

Option names are written with dashes on the line and in camel case in an invocation:
`dry-run` becomes `dryRun`.
-/

namespace OperatorShell.Text

/-- A part of a name with its first character in upper case. -/
def capitalize : List Char → List Char
  | [] => []
  | first :: rest => toUpper first ++ rest

/-- The parts between dashes joined into one name.  Empty parts count for nothing,
and the first part keeps its case. -/
def camelCase (dashed : List Char) : List Char :=
  match (dashed.splitOn '-').filter (!·.isEmpty) with
  | [] => []
  | first :: rest => first ++ rest.flatMap capitalize

/-- The name of an option in an invocation. -/
def camelCaseName (dashed : String) : String :=
  String.ofList (camelCase dashed.toList)

end OperatorShell.Text
