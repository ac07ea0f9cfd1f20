import OperatorShell.Toml.Literal
import OperatorShell.Toml.Scalar

/-!
# Statements of a TOML document

A document is a sequence of statements, one a line: a header opens a table, and an
assignment gives a key its value.  Keys are dotted paths.  Arrays can span lines and
inline tables cannot; how deep brackets and paths nest has a limit.
-/

namespace OperatorShell.Toml

/-- One statement. -/
inductive Statement where
  /-- Open the table at a path. -/
  | header (path : List String)
  /-- Open one more table at a path. -/
  | nextHeader (path : List String)
  /-- Give the key at a path its value. -/
  | assignment (path : List String) (value : Value)
  deriving DecidableEq, Repr

/-- What nests less deep than this is read. -/
def nestingLimit : Nat := 80

/-- Skip white space within a line. -/
def skipSpace (text : List Char) : List Char := text.dropWhile isSpace

/-- Whether a character can stand in a comment. -/
def isCommentChar (character : Char) : Bool :=
  character == '\t' || 0x20 ≤ character.toNat

/-- Skip a comment, if one is here. -/
def skipComment : List Char → List Char
  | '#' :: rest => rest.dropWhile isCommentChar
  | text => text

/-- The text after what ends a statement: white space, a comment, and the end of the
line or of the document. -/
def afterLine? (text : List Char) : Option (List Char) :=
  match skipComment (skipSpace text) with
  | [] => some []
  | rest => afterBreak? rest

/-- Skip white space, comments and the ends of lines.  The flag tells whether the text
starts inside a comment. -/
def skipLines : Bool → List Char → List Char
  | _, [] => []
  | _, '\n' :: rest => skipLines false rest
  | _, '\r' :: '\n' :: rest => skipLines false rest
  | true, character :: rest =>
      if isCommentChar character then skipLines true rest else character :: rest
  | false, '#' :: rest => skipLines true rest
  | false, character :: rest =>
      if isSpace character then skipLines false rest else character :: rest

/-- Whether a character can stand in a key without quotes. -/
def isKeyChar (character : Char) : Bool :=
  character.isAlphanum || character == '-' || character == '_'

/-- Read one part of a key. -/
def readKeyPart? (text : List Char) : Option (String × List Char) :=
  match text with
  | '"' :: rest => (readBasic? rest).map fun result => (String.ofList result.1, result.2)
  | '\'' :: rest => (readRaw? rest).map fun result => (String.ofList result.1, result.2)
  | text =>
      match text.takeWhile isKeyChar with
      | [] => none
      | name => some (String.ofList name, text.dropWhile isKeyChar)

/-- Read the parts of a key with the dots between them. -/
def readKeyParts? (text : List Char) : Option (List String × List Char) :=
  match readKeyPart? (skipSpace text) with
  | none => none
  | some (part, rest) =>
      match skipSpace rest with
      | '.' :: later =>
          if _shorter : later.length < text.length then
            (readKeyParts? later).map fun result => (part :: result.1, result.2)
          else none
      | later => some ([part], later)
termination_by text.length

/-- Read a key. -/
def readKey? (text : List Char) : Option (List String × List Char) :=
  (readKeyParts? text).filter fun result => result.1.length < nestingLimit

/-- Read the items of an array after its opening bracket or a comma, and its closing
bracket. -/
def readItems? (readItem? : List Char → Option (Value × List Char))
    (text : List Char) : Option (List Char) :=
  match skipLines false text with
  | ']' :: rest => some rest
  | start =>
      match readItem? start with
      | none => none
      | some (_, rest) =>
          match skipLines false rest with
          | ']' :: later => some later
          | ',' :: later =>
              if _shorter : later.length < text.length then readItems? readItem? later
              else none
          | _ => none
termination_by text.length

/-- Read a key with its value. -/
def readAssignment? (readItem? : List Char → Option (Value × List Char))
    (text : List Char) : Option (List String × Value × List Char) :=
  match readKey? text with
  | some (path, '=' :: rest) =>
      (readItem? (skipSpace rest)).map fun result => (path, result.1, result.2)
  | _ => none

/-- Give the key at a path in a table its value. -/
def assignPath? (path : List String) (value : Value) (origin : Origin)
    (entries : Entries) : Option Entries :=
  path.getLast?.bind fun key => entries.assign? path.dropLast key value origin

/-- Read the pairs of an inline table, and its closing brace. -/
def readPairs? (readItem? : List Char → Option (Value × List Char))
    (entries : Entries) (text : List Char) : Option (List Char) :=
  match readAssignment? readItem? text with
  | none => none
  | some (path, value, rest) =>
      match assignPath? path value .header entries, skipSpace rest with
      | some _, '\x7d' :: later => some later
      | some entries, ',' :: later =>
          if _shorter : later.length < text.length then
            readPairs? readItem? entries later
          else none
      | _, _ => none
termination_by text.length

/-- Read an inline table after its opening brace. -/
def readInline? (readItem? : List Char → Option (Value × List Char))
    (text : List Char) : Option (List Char) :=
  match skipSpace text with
  | '\x7d' :: rest => some rest
  | start => readPairs? readItem? [] start

/-- Read a value without brackets. -/
def readLeaf? (text : List Char) : Option (Value × List Char) :=
  match text with
  | '"' :: _ | '\'' :: _ =>
      (readString? text).map fun result => (.text (String.ofList result.1), result.2)
  | text => readScalar? text

/-- Read a value in which at most so many brackets are open at once. -/
def readValue? : Nat → List Char → Option (Value × List Char)
  | depth + 1, '[' :: rest => (readItems? (readValue? depth) rest).map (.other, ·)
  | depth + 1, '\x7b' :: rest => (readInline? (readValue? depth) rest).map (.other, ·)
  | _, text => readLeaf? text

/-- Read a statement. -/
def readStatement? (text : List Char) : Option (Statement × List Char) :=
  match text with
  | '[' :: '[' :: rest =>
      match readKey? rest with
      | some (path, ']' :: ']' :: later) => some (.nextHeader path, later)
      | _ => none
  | '[' :: rest =>
      match readKey? rest with
      | some (path, ']' :: later) => some (.header path, later)
      | _ => none
  | text =>
      (readAssignment? (readValue? (nestingLimit - 1)) text).map
        fun result => (.assignment result.1 result.2.1, result.2.2)

/-- Whether a character cannot start a statement but can start the end of a line. -/
def isLineEndChar (character : Char) : Bool :=
  character == '#' || character == '\n' || character == '\r'

/-- Read a line: a statement, or none on a blank line. -/
def readLine? (text : List Char) : Option (List Statement × List Char) :=
  match text with
  | [] => some ([], [])
  | character :: _ =>
      if isLineEndChar character then (afterLine? text).map ([], ·)
      else
        (readStatement? text).bind fun result =>
          (afterLine? result.2).map ([result.1], ·)

/-- Read the statements of a document. -/
def readStatements? (text : List Char) : Option (List Statement) :=
  match skipSpace text with
  | [] => some []
  | start =>
      match readLine? start with
      | none => none
      | some (line, rest) =>
          if _shorter : rest.length < text.length then
            (readStatements? rest).map (line ++ ·)
          else none
termination_by text.length

end OperatorShell.Toml
