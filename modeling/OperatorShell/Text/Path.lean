/-!
# Paths of files

The two things about a path that matter here: what stands in a directory, and the
extension of a file name.
-/

namespace OperatorShell.Text

/-- The path of a name in a directory. -/
def joinPath (directory name : String) : String :=
  if directory.toList.getLast? = some '/' then directory ++ name
  else directory ++ "/" ++ name

/-- The last component of a path, unless the path ends in the parent of something. -/
def fileName? (path : String) : Option (List Char) :=
  let components := (path.toList.splitOn '/').filter fun component =>
    component != [] && component != ['.']
  components.getLast?.filter (· != ['.', '.'])

/-- What follows the last dot of a file name.  A dot at the start of the name does not
count. -/
def extension? (path : String) : Option (List Char) :=
  (fileName? path).bind fun name =>
    match name.reverse.dropWhile (· != '.') with
    | [] | [_] => none
    | _ => some (name.reverse.takeWhile (· != '.')).reverse

end OperatorShell.Text
