import OperatorShell.Text.Quoted

/-!
# Records as text

One way to show a record in a log: its name, and its fields with their values between
braces.
-/

namespace OperatorShell.Text

/-- A truth value. -/
def showBool (value : Bool) : String := if value then "true" else "false"

/-- A value that may be missing. -/
def showOption (value : Option String) : String :=
  match value with
  | some value => "Some(" ++ value ++ ")"
  | none => "None"

/-- Values in square brackets. -/
def showList (values : List String) : String :=
  "[" ++ ", ".intercalate values ++ "]"

/-- A named record with its fields. -/
def showRecord (name : String) (fields : List (String × String)) : String :=
  name ++ " \x7b " ++
    ", ".intercalate (fields.map fun field => field.1 ++ ": " ++ field.2) ++ " \x7d"

end OperatorShell.Text
