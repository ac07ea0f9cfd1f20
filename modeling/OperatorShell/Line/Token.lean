import OperatorShell.Line.Piece

/-!
# Tokens

A token is a piece of the line together with its part in the command grammar.  A
command starts with the words of its path, goes on with option keys, and the first
text after a key is that key's value; all later texts are arguments.  `&&` and `||`
join two commands.  The part of a token depends on its own text and on the token
before it.
-/

namespace OperatorShell.Line

open OperatorShell.Text

/-- How two commands of a line are joined. -/
inductive Connective where
  /-- `&&`: the next command runs only after a success. -/
  | and
  /-- `||`: the next command runs only after a failure. -/
  | or
  deriving DecidableEq, Repr

/-- How an option key is spelt. -/
inductive KeyStyle where
  /-- With two dashes, as in `--name`. -/
  | full
  /-- With one dash, as in `-n`. -/
  | short
  deriving DecidableEq, Repr

/-- The part that a token plays in its command. -/
inductive Kind where
  | operator (connective : Connective)
  | word
  | argument
  | key (style : KeyStyle)
  | value
  deriving DecidableEq, Repr

/-- A classified piece of a line. -/
structure Token where
  /-- Byte offset of the first character. -/
  start : Nat
  /-- Raw text, quotes included. -/
  text : List Char
  kind : Kind
  deriving DecidableEq, Repr

namespace Connective

/-- The connective as it is typed. -/
def text : Connective → List Char
  | .and => ['&', '&']
  | .or => ['|', '|']

/-- Read a connective. -/
def ofText? (text : List Char) : Option Connective :=
  if text = ['&', '&'] then some .and
  else if text = ['|', '|'] then some .or
  else none

@[simp] theorem ofText?_text (connective : Connective) :
    ofText? connective.text = some connective := by
  cases connective <;> rfl

theorem ofText?_eq_some_iff {text : List Char} {connective : Connective} :
    ofText? text = some connective ↔ text = connective.text := by
  constructor
  · intro read
    unfold ofText? at read
    split at read
    · cases read; assumption
    · split at read
      · cases read; assumption
      · cases read
  · intro equal
    rw [equal, ofText?_text]

end Connective

namespace Kind

/-- The part of a text that follows a token of the given kind; no token before it
means that the text starts the line. -/
def classify (text : List Char) (previous : Option Kind) : Kind :=
  match Connective.ofText? text with
  | some connective => .operator connective
  | none =>
      match previous with
      | none | some (.operator _) => .word
      | some previous =>
          match text with
          | '-' :: '-' :: _ => .key .full
          | '-' :: _ => .key .short
          | _ =>
              match previous with
              | .key _ => .value
              | .word => .word
              | _ => .argument

/-- Whether the token is a word of the path or an argument. -/
def isPositional : Kind → Bool
  | .word | .argument => true
  | _ => false

/-- Whether the token joins two commands. -/
def isOperator : Kind → Bool
  | .operator _ => true
  | _ => false

/-- Whether the token is an option key. -/
def isKey : Kind → Bool
  | .key _ => true
  | _ => false

end Kind

namespace Token

/-- Byte offset right after the last character. -/
def stop (token : Token) : Nat := token.start + byteLength token.text

/-- The value that the token stands for, without quotes. -/
def value (token : Token) : List Char := unquote token.text

/-- The name after the leading dashes, for an option key. -/
def optionName? (token : Token) : Option (List Char) :=
  if token.kind.isKey then some (token.value.dropWhile (· == '-')) else none

/-- The spelling of the key, for an option key. -/
def style? (token : Token) : Option KeyStyle :=
  match token.kind with
  | .key style => some style
  | _ => none

/-- The connective, for a token that joins two commands. -/
def connective? (token : Token) : Option Connective :=
  match token.kind with
  | .operator connective => some connective
  | _ => none

/-- Whether the token is a word of the path or an argument. -/
def isPositional (token : Token) : Bool := token.kind.isPositional

/-- The token with all its offsets moved to the right. -/
def shift (distance : Nat) (token : Token) : Token :=
  { token with start := token.start + distance }

end Token

/-- Classify pieces from left to right, given the kind of the token before the
first one. -/
def classifyAll : Option Kind → List Piece → List Token
  | _, [] => []
  | previous, piece :: rest =>
      let kind := Kind.classify piece.text previous
      ⟨piece.start, piece.text, kind⟩ :: classifyAll (some kind) rest

/-- The tokens of a line, from left to right. -/
def tokenize (line : List Char) : List Token :=
  classifyAll none (split line)

end OperatorShell.Line
